import TypedSql.Plugin.Exchange
import TypedSql.Request.Json
import TypedSql.Script.Banner
import TypedSql.Script.Querier

/-!
The generator: a request in, two files out. It fails as a whole, and its result depends on the
request alone.
-/

namespace TypedSql

namespace Request

/-- The columns whose types appear in the generated files, apart from embeds. -/
def typedColumns (request : Request) : List Column :=
  request.catalog.tables.flatMap Table.columns ++
    request.queries.flatMap fun query =>
      query.params.map Param.column ++ query.columns.filter fun column => column.embed?.isNone

/-- The database types without a TypeScript type, each once, in increasing order. -/
def unknownTypes (request : Request) (types : TypeTable) : List String :=
  Text.sortedDistinct
    ((request.typedColumns.map Column.sqlType).filter fun sqlType => !types.knows sqlType)

def types (request : Request) : TypeTable :=
  .ofOverrides request.overrides

def banner (request : Request) : String :=
  Script.banner request.sqlcVersion request.pluginDigest

def files (request : Request) (bindings : List Binding) : List GeneratedFile :=
  [⟨Generator.modelsFile, Script.modelsText request.catalog request.types request.banner⟩,
    ⟨Generator.querierFile, Script.querierText bindings request.options request.banner⟩]

end Request

def GeneratedFile.event (file : GeneratedFile) : Event :=
  .fileGenerated file.name file.bytes.length file.digest

def bindAll (catalog : Catalog) (types : TypeTable) : List Query → Traced (List Binding)
  | [] => .done []
  | query :: rest => do
    let binding ← query.bind catalog types
    return binding :: (← bindAll catalog types rest)

def generate (request : Request) : Traced (List GeneratedFile) := do
  .reports ((request.unknownTypes request.types).map .unknownType)
  let bindings ← bindAll request.catalog request.types request.queries
  let files := request.files bindings
  .reports (files.map GeneratedFile.event)
  return files

inductive RequestFormat where
  | protobuf
  | json
deriving DecidableEq

def loadRequest (format : RequestFormat) (bytes : Bytes) : Traced Request :=
  match format with
  | .protobuf => Plugin.decodeRequest bytes
  | .json => ⟨[], Request.ofJson bytes⟩

def generateFrom (format : RequestFormat) (bytes : Bytes) : Traced (List GeneratedFile) := do
  generate (← loadRequest format bytes)

/-- The exchange with the SQL compiler: the bytes of a request in, those of the answer out. -/
def Plugin.run (bytes : Bytes) : Traced Bytes := do
  return Plugin.encodeResponse (← generateFrom .protobuf bytes)

end TypedSql
