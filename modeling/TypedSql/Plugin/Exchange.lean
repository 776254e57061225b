import TypedSql.Plugin.Messages
import TypedSql.Request

/-!
From the messages of the protocol to requests, and from generated files to the answer.

Reading a message into a request checks three things, in this order: the options, and then query by
query the command and the numbers of the parameters. An identifier without a name counts as absent.
-/

namespace TypedSql.Plugin

/-- The identifier, unless its name is empty. -/
def Identifier.named? (identifier : Option Identifier) : Option TypedSql.Identifier :=
  (identifier.filter fun i => i.name != "").map fun i => ⟨i.name⟩

def Column.toColumn (column : Column) : TypedSql.Column where
  name := column.name
  sqlType := (column.type.map Identifier.name).getD ""
  notNull := column.notNull
  isSlice := column.isSqlcSlice
  table := Identifier.named? column.table
  embedTable := Identifier.named? column.embedTable

def Table.toTable (table : Table) : TypedSql.Table where
  rel := (Identifier.named? table.rel).getD ⟨""⟩
  columns := table.columns.map Column.toColumn

def Schema.toSchema (schema : Schema) : TypedSql.Schema where
  name := schema.name
  tables := schema.tables.map Table.toTable

def Catalog.toCatalog (catalog : Catalog) : TypedSql.Catalog where
  schemas := catalog.schemas.map Schema.toSchema

def Override.toOverride (override : Override) : TypeOverride where
  sqlType := override.dbType
  codeType := override.codeType

/-- The parameter of a query, whose number must not be negative. -/
def Parameter.toParam (query : String) (parameter : Parameter) : Except Cause Param :=
  if parameter.number < 0 then .error (.parameterNumber query parameter.number.toInt)
  else
    .ok ⟨parameter.number.toUInt32, (parameter.column.map Column.toColumn).getD { name := "" }⟩

def Query.toQuery (query : Query) : Except Cause TypedSql.Query :=
  match Command.read? query.cmd with
  | none => .error (.unknownCommand query.name query.cmd)
  | some command =>
    (query.params.mapM (Parameter.toParam query.name)).map fun params =>
      { name := query.name
        command
        text := query.text
        params
        columns := query.columns.map Column.toColumn }

namespace Request

def codegen (request : Request) : Codegen :=
  ((request.settings.getD {}).codegen).getD {}

/-- The options of the request. Older compilers send them beside the settings only. -/
def payload (request : Request) : Bytes :=
  if request.pluginOptions = [] then request.codegen.options else request.pluginOptions

def assemble (request : Request) (options : Options) (queries : List TypedSql.Query) :
    TypedSql.Request where
  sqlcVersion := request.sqlcVersion
  pluginDigest := (request.codegen.wasm.map Wasm.sha256).getD ""
  options
  overrides := (request.settings.getD {}).overrides.map Override.toOverride
  catalog := (request.catalog.getD {}).toCatalog
  queries

def toRequest (request : Request) : Traced TypedSql.Request := do
  let options ← (Options.parse request.payload).during .parseOptions
  match request.queries.mapM Query.toQuery with
  | .error cause => .fail cause
  | .ok queries => return request.assemble options queries

end Request

def decodeRequest (bytes : Bytes) : Traced TypedSql.Request :=
  match Request.messageType.decode bytes with
  | .error fault => .fail (.requestMalformed fault)
  | .ok request => request.toRequest

def File.ofGenerated (file : GeneratedFile) : File :=
  ⟨file.name, file.bytes⟩

def encodeResponse (files : List GeneratedFile) : Bytes :=
  Response.messageType.encode ⟨files.map File.ofGenerated⟩

end TypedSql.Plugin
