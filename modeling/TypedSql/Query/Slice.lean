import TypedSql.Query.Names

/-!
List parameters. The database cannot bind a list, so the compiler writes one marked placeholder,
`(/*SLICE:ids*/?)`, and numbers it like any other. The generated function replaces the marker when
it is called: the first element takes the number of the placeholder, and the others take new numbers
after all values bound so far, so no other parameter changes its number.
-/

namespace TypedSql.Slice

/-- The placeholder that the compiler leaves for a list parameter. -/
def marker (column : String) : String :=
  "(/*SLICE:" ++ column ++ "*/?)"

inductive Bound where
  | whole (property : String)
  | first (property : String)
deriving DecidableEq

def Bound.expression : Bound → String
  | .whole property => "args." ++ property
  | .first property => "args." ++ property ++ "[0]"

/-- The value bound for a parameter before any list is expanded. -/
def bound (param : Param) : Bound :=
  if param.column.isSlice then .first param.column.property else .whole param.column.property

/-- One list parameter: its marker, the number of its placeholder, and the property of the list. -/
structure Expansion where
  marker : String
  number : UInt32
  property : String
deriving DecidableEq

def expansion (param : Param) : Expansion :=
  ⟨marker param.column.name, param.number, param.column.property⟩

/-- What a function with list parameters does when it is called. -/
structure Plan where
  seed : List Bound
  expansions : List Expansion
deriving DecidableEq

end TypedSql.Slice

namespace TypedSql.Query

def bounds (query : Query) : List Slice.Bound :=
  query.params.map Slice.bound

/-- The plan of a query that has a list parameter. -/
def slicePlan? (query : Query) : Option Slice.Plan :=
  if query.hasSlice then
    some ⟨query.bounds,
      (query.params.filter fun param => param.column.isSlice).map Slice.expansion⟩
  else none

end TypedSql.Query
