import TypedSql.Query.Binding
import TypedSql.Script.Literal
import TypedSql.Script.Models

/-!
The file of query functions. It begins with imports and the type of a query in flight. Every query
then has a section of its own: the constant with its text, its types, and its function. A helper for
list parameters stands at the end if some query has one.
-/

namespace TypedSql.Script

def queryType : String :=
  "type Query<T> = \x7b\n" ++
    "  then(onFulfilled?: (value: T) => void, onRejected?: (reason?: any) => void): void;\n" ++
    "  batch(): D1PreparedStatement;\n" ++
    "\x7d\n"

/-- The helper that writes the placeholders of a list. -/
def expandedParam : String :=
  "function expandedParam(n: number, len: number, last: number): string \x7b\n" ++
    "  const params: number[] = [n];\n" ++
    "  for (let i = 1; i < len; i++) \x7b\n" ++
    "    params.push(last + i);\n" ++
    "  \x7d\n" ++
    "  return \"(\" + params.map((x: number) => \"?\" + x).join(\", \") + \")\";\n" ++
    "\x7d\n"

def imports (options : Options) (models : List String) : List String :=
  (if options.workersTypesV3 then []
    else ["import \x7b D1Database, D1PreparedStatement, D1Result \x7d from \"" ++ options.package ++
      "\""]) ++
  (if models = [] then []
    else ["import \x7b " ++ String.intercalate ", " models ++ " \x7d from \"./models\""])

def header (options : Options) (models : List String) (banner : String) : List Step :=
  let lines := imports options models
  [.verbatim banner, Step.blank] ++ lines.map .line ++ (if lines = [] then [] else [Step.blank]) ++
    [.verbatim queryType, Step.blank]

/-- The constant with the text of a query, after a comment with its name and command. -/
def constant (binding : Binding) : List Step :=
  [.verbatim ("const " ++ binding.constantName ++ " = `-- name: " ++ binding.query.name ++ " " ++
      binding.query.command.keyword ++ "\n" ++ templateBody binding.text ++ "`;\n"),
    Step.blank]

def parameterLines (params : Option TypeDeclaration) : List Step :=
  match params with
  | some params => [.line "d1: D1Database,", .line ("args: " ++ params.name)]
  | none => [.line "d1: D1Database"]

def expansionLines (expansion : Slice.Expansion) : List Step :=
  [.line ("query = query.replace(" ++ stringLiteral expansion.marker ++ ", expandedParam(" ++
      toString expansion.number.toNat ++ ", args." ++ expansion.property ++
      ".length, params.length));"),
    .line ("params.push(...args." ++ expansion.property ++ ".slice(1));")]

def boundList (bounds : List Slice.Bound) : String :=
  String.intercalate ", " (bounds.map Slice.Bound.expression)

def sliceLines (binding : Binding) : List Step :=
  match binding.slices with
  | none => []
  | some plan =>
    [.line ("let query = " ++ binding.constantName ++ ";"),
      .line ("const params: any[] = [" ++ boundList plan.seed ++ "];")] ++
    plan.expansions.flatMap expansionLines

def statementLines (binding : Binding) : List Step :=
  let text := if binding.slices.isSome then "query" else binding.constantName
  let values := if binding.slices.isSome then "...params" else boundList binding.bounds
  [.line "const ps = d1", .indent] ++
  (if binding.bounds = [] then [.line (".prepare(" ++ text ++ ");")]
    else [.line (".prepare(" ++ text ++ ")"), .line (".bind(" ++ values ++ ");")]) ++
  [.dedent]

def mappingLines : Mapping → List Step
  | .scalar property raw => [.line (property ++ ": raw." ++ raw ++ ",")]
  | .embed property fields =>
    .line ("// sqlc.embed(" ++ property ++ ")") ::
      Step.block (property ++ ": \x7b")
        (fields.map fun (name, raw) => .line (name ++ ": raw." ++ raw ++ ",")) "\x7d,"

/-- The step that turns raw rows into public rows. The third version of the types allows a result
without rows. -/
def fromRawLines (options : Options) (call : Call) (mapping : List Mapping) : List Step :=
  let properties := mapping.flatMap mappingLines
  match call with
  | .first row => Step.block (".then((raw: " ++ row ++ ") => raw ? \x7b") properties "\x7d : null)"
  | .all row =>
    Step.block (".then((r: D1Result<" ++ row ++ ">) => \x7b return \x7b")
      (.line "...r," ::
        (if options.workersTypesV3 then
          Step.block ("results: r.results ? r.results.map((raw: " ++ row ++
            ") => \x7b return \x7b") properties "\x7d\x7d) : undefined,"
        else
          Step.block ("results: r.results.map((raw: " ++ row ++ ") => \x7b return \x7b") properties
            "\x7d\x7d),"))
      "\x7d\x7d)"
  | .run => []

def callLine : Call → Step
  | .first row => .line ("ps.first<" ++ row ++ ">()")
  | .all row => .line ("ps.all<" ++ row ++ ">()")
  | .run => .line "ps.run()"

def thenLines (options : Options) (signature : Signature) : List Step :=
  Step.block
    ("then(onFulfilled?: (value: " ++ signature.returns ++
      ") => void, onRejected?: (reason?: any) => void) \x7b")
    ([callLine signature.call, .indent] ++
      (if signature.rawRow.isSome then fromRawLines options signature.call signature.mapping
        else []) ++
      [.line ".then(onFulfilled).catch(onRejected);", .dedent])
    "\x7d,"

def functionLines (options : Options) (binding : Binding) : List Step :=
  Step.opening ("export function " ++ binding.functionName ++ "(") ++
    (parameterLines binding.signature.params ++ [.dedent]) ++
  Step.block ("): Query<" ++ binding.signature.returns ++ "> \x7b")
    (sliceLines binding ++ statementLines binding ++
      Step.block "return \x7b"
        (thenLines options binding.signature ++ [.line "batch() \x7b return ps; \x7d,"])
        "\x7d")
    "\x7d" ++
  [Step.blank]

def declarations (signature : Signature) : List TypeDeclaration :=
  signature.params.toList ++ signature.row.toList ++ signature.rawRow.toList

def sectionLines (options : Options) (binding : Binding) : List Step :=
  constant binding ++ (declarations binding.signature).flatMap TypeDeclaration.steps ++
    functionLines options binding

/-- The model types that some queries use, in increasing order. -/
def usedModels (bindings : List Binding) : List String :=
  Text.sortedDistinct (bindings.flatMap fun binding => binding.signature.models)

def footer (bindings : List Binding) : List Step :=
  if bindings.any fun binding => binding.slices.isSome then [.verbatim expandedParam] else []

def querierText (bindings : List Binding) (options : Options) (banner : String) : String :=
  Step.render
    (header options (usedModels bindings) banner ++ bindings.flatMap (sectionLines options) ++
      footer bindings)

end TypedSql.Script
