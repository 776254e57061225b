import TypedSql.Json.Record
import TypedSql.Request

/-!
Requests as JSON, for tools that have no Protobuf. The names of the members are those of the
exchange format; members that may be missing stand for their defaults.
-/

namespace TypedSql

open Json (Codec Record Member)

def Identifier.record : Record Identifier where
  blank := ⟨""⟩
  members := [
    .field "name" Json.textCodec Identifier.name (fun x r => { r with name := x })]

def Column.record : Record Column where
  blank := { name := "" }
  members := [
    .field "name" Json.textCodec Column.name (fun x r => { r with name := x }),
    .defaulted "db_type" Json.textCodec Column.sqlType (fun x r => { r with sqlType := x }),
    .defaulted "not_null" Json.boolCodec Column.notNull (fun x r => { r with notNull := x }),
    .defaulted "is_slice" Json.boolCodec Column.isSlice (fun x r => { r with isSlice := x }),
    .optional "table" Identifier.record.codec Column.table (fun x r => { r with table := x }),
    .optional "embed_table" Identifier.record.codec Column.embedTable
      (fun x r => { r with embedTable := x })]

def Table.record : Record Table where
  blank := { rel := ⟨""⟩ }
  members := [
    .field "rel" Identifier.record.codec Table.rel (fun x r => { r with rel := x }),
    .defaulted "columns" (Json.listCodec Column.record.codec) Table.columns
      (fun x r => { r with columns := x })]

def Schema.record : Record Schema where
  blank := {}
  members := [
    .defaulted "name" Json.textCodec Schema.name (fun x r => { r with name := x }),
    .defaulted "tables" (Json.listCodec Table.record.codec) Schema.tables
      (fun x r => { r with tables := x })]

def Catalog.record : Record Catalog where
  blank := {}
  members := [
    .defaulted "schemas" (Json.listCodec Schema.record.codec) Catalog.schemas
      (fun x r => { r with schemas := x })]

/-- A command is written as its keyword. It may also stand as the only name of an object, with the
value null. -/
def Command.codec : Codec Command where
  read?
    | .string pieces => (Json.textOfPieces? pieces).bind Command.ofKeyword?
    | .object [(pieces, .null)] => (Json.textOfPieces? pieces).bind Command.ofKeyword?
    | _ => none
  write command := .string command.keyword

def Param.record : Record Param where
  blank := ⟨0, { name := "" }⟩
  members := [
    .field "number" Json.wordCodec Param.number (fun x r => { r with number := x }),
    .field "column" Column.record.codec Param.column (fun x r => { r with column := x })]

def Query.record : Record Query where
  blank := { name := "", command := .exec, text := "" }
  members := [
    .field "name" Json.textCodec Query.name (fun x r => { r with name := x }),
    .field "cmd" Command.codec Query.command (fun x r => { r with command := x }),
    .field "text" Json.textCodec Query.text (fun x r => { r with text := x }),
    .defaulted "params" (Json.listCodec Param.record.codec) Query.params
      (fun x r => { r with params := x }),
    .defaulted "columns" (Json.listCodec Column.record.codec) Query.columns
      (fun x r => { r with columns := x })]

def TypeOverride.record : Record TypeOverride where
  blank := ⟨"", ""⟩
  members := [
    .field "db_type" Json.textCodec TypeOverride.sqlType (fun x r => { r with sqlType := x }),
    .field "code_type" Json.textCodec TypeOverride.codeType (fun x r => { r with codeType := x })]

def Options.record : Record Options where
  blank := {}
  members := [
    .defaulted "workers_types" Json.textCodec Options.workersTypes
      (fun x r => { r with workersTypes := x }),
    .defaulted "workers_types_v3" Json.boolCodec Options.workersTypesV3
      (fun x r => { r with workersTypesV3 := x })]

def Request.record : Record Request where
  blank := {}
  members := [
    .defaulted "sqlc_version" Json.textCodec Request.sqlcVersion
      (fun x r => { r with sqlcVersion := x }),
    .defaulted "plugin_sha256" Json.textCodec Request.pluginDigest
      (fun x r => { r with pluginDigest := x }),
    .defaulted "options" Options.record.codec Request.options (fun x r => { r with options := x }),
    .defaulted "overrides" (Json.listCodec TypeOverride.record.codec) Request.overrides
      (fun x r => { r with overrides := x }),
    .defaulted "catalog" Catalog.record.codec Request.catalog (fun x r => { r with catalog := x }),
    .defaulted "queries" (Json.listCodec Query.record.codec) Request.queries
      (fun x r => { r with queries := x })]

def Request.ofJson (bytes : Bytes) : Except Failure Request :=
  match Request.record.readBytes? bytes with
  | some request => .ok request
  | none => .error ⟨.requestNotJson, []⟩

end TypedSql
