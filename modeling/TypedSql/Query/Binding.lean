import TypedSql.Query.Signature
import TypedSql.Query.Slice

/-!
A query with everything that its part of the generated file needs: the aliased text, the names, the
signature, and the values that are bound to the statement.
-/

namespace TypedSql

structure Binding where
  query : Query
  text : String
  signature : Signature
  bounds : List Slice.Bound
  slices : Option Slice.Plan
deriving DecidableEq

namespace Binding

def constantName (binding : Binding) : String :=
  binding.query.constantName

def functionName (binding : Binding) : String :=
  binding.query.functionName

def event (binding : Binding) : Event :=
  .queryBound binding.query.name binding.query.command.keyword binding.signature.params.isSome
    binding.signature.rawRow.isSome ((binding.slices.map fun plan => plan.expansions.length).getD 0)

end Binding

def Query.bind (catalog : Catalog) (types : TypeTable) (query : Query) : Traced Binding := do
  let text ← (query.aliasEmbeds catalog).during (.aliasQuery query.name)
  match query.signature catalog types with
  | .error cause => Traced.during (.resolveQuery query.name) (.fail cause)
  | .ok signature =>
    let binding : Binding := ⟨query, text, signature, query.bounds, query.slicePlan?⟩
    .report binding.event
    return binding

end TypedSql
