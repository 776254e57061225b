import TypedSql.Protobuf.Message

/-!
The messages that the SQL compiler and its plugins exchange, as far as this generator reads and
writes them. A type of this module has one member for every field; fields of the protocol that are
not listed are passed over.
-/

namespace TypedSql.Plugin

open Protobuf (Field MessageType)

structure File where
  name : String := ""
  contents : Bytes := []
deriving DecidableEq

structure Override where
  codeType : String := ""
  dbType : String := ""
  nullable : Bool := false
  column : String := ""
deriving DecidableEq

structure Wasm where
  url : String := ""
  sha256 : String := ""
deriving DecidableEq

structure Codegen where
  out : String := ""
  plugin : String := ""
  options : Bytes := []
  wasm : Option Wasm := none
deriving DecidableEq

structure Settings where
  version : String := ""
  engine : String := ""
  overrides : List Override := []
  codegen : Option Codegen := none
deriving DecidableEq

structure Identifier where
  catalog : String := ""
  schema : String := ""
  name : String := ""
deriving DecidableEq

structure Column where
  name : String := ""
  notNull : Bool := false
  isArray : Bool := false
  table : Option Identifier := none
  type : Option Identifier := none
  isSqlcSlice : Bool := false
  embedTable : Option Identifier := none
deriving DecidableEq

structure Table where
  rel : Option Identifier := none
  columns : List Column := []
deriving DecidableEq

structure Schema where
  name : String := ""
  tables : List Table := []
deriving DecidableEq

structure Catalog where
  defaultSchema : String := ""
  schemas : List Schema := []
deriving DecidableEq

structure Parameter where
  number : Int32 := 0
  column : Option Column := none
deriving DecidableEq

structure Query where
  text : String := ""
  name : String := ""
  cmd : String := ""
  columns : List Column := []
  params : List Parameter := []
deriving DecidableEq

structure Request where
  settings : Option Settings := none
  catalog : Option Catalog := none
  queries : List Query := []
  sqlcVersion : String := ""
  pluginOptions : Bytes := []
deriving DecidableEq

structure Response where
  files : List File := []
deriving DecidableEq

def File.messageType : MessageType File where
  name := "File"
  empty := {}
  fields := [
    .text 1 "name" File.name (fun x m => { m with name := x }),
    .bytes 2 "contents" File.contents (fun x m => { m with contents := x })]

def Override.messageType : MessageType Override where
  name := "Override"
  empty := {}
  fields := [
    .text 1 "code_type" Override.codeType (fun x m => { m with codeType := x }),
    .text 3 "db_type" Override.dbType (fun x m => { m with dbType := x }),
    .bool 5 "nullable" Override.nullable (fun x m => { m with nullable := x }),
    .text 6 "column" Override.column (fun x m => { m with column := x })]

def Wasm.messageType : MessageType Wasm where
  name := "Wasm"
  empty := {}
  fields := [
    .text 1 "url" Wasm.url (fun x m => { m with url := x }),
    .text 2 "sha256" Wasm.sha256 (fun x m => { m with sha256 := x })]

def Codegen.messageType : MessageType Codegen where
  name := "Codegen"
  empty := {}
  fields := [
    .text 1 "out" Codegen.out (fun x m => { m with out := x }),
    .text 2 "plugin" Codegen.plugin (fun x m => { m with plugin := x }),
    .bytes 3 "options" Codegen.options (fun x m => { m with options := x }),
    .message Wasm.messageType 6 "wasm" Codegen.wasm (fun x m => { m with wasm := x })]

def Settings.messageType : MessageType Settings where
  name := "Settings"
  empty := {}
  fields := [
    .text 1 "version" Settings.version (fun x m => { m with version := x }),
    .text 2 "engine" Settings.engine (fun x m => { m with engine := x }),
    .messages Override.messageType 6 "overrides" Settings.overrides
      (fun x m => { m with overrides := x }),
    .message Codegen.messageType 12 "codegen" Settings.codegen (fun x m => { m with codegen := x })]

def Identifier.messageType : MessageType Identifier where
  name := "Identifier"
  empty := {}
  fields := [
    .text 1 "catalog" Identifier.catalog (fun x m => { m with catalog := x }),
    .text 2 "schema" Identifier.schema (fun x m => { m with schema := x }),
    .text 3 "name" Identifier.name (fun x m => { m with name := x })]

def Column.messageType : MessageType Column where
  name := "Column"
  empty := {}
  fields := [
    .text 1 "name" Column.name (fun x m => { m with name := x }),
    .bool 3 "not_null" Column.notNull (fun x m => { m with notNull := x }),
    .bool 4 "is_array" Column.isArray (fun x m => { m with isArray := x }),
    .message Identifier.messageType 10 "table" Column.table (fun x m => { m with table := x }),
    .message Identifier.messageType 12 "r#type" Column.type (fun x m => { m with type := x }),
    .bool 13 "is_sqlc_slice" Column.isSqlcSlice (fun x m => { m with isSqlcSlice := x }),
    .message Identifier.messageType 14 "embed_table" Column.embedTable
      (fun x m => { m with embedTable := x })]

def Table.messageType : MessageType Table where
  name := "Table"
  empty := {}
  fields := [
    .message Identifier.messageType 1 "rel" Table.rel (fun x m => { m with rel := x }),
    .messages Column.messageType 2 "columns" Table.columns (fun x m => { m with columns := x })]

def Schema.messageType : MessageType Schema where
  name := "Schema"
  empty := {}
  fields := [
    .text 2 "name" Schema.name (fun x m => { m with name := x }),
    .messages Table.messageType 3 "tables" Schema.tables (fun x m => { m with tables := x })]

def Catalog.messageType : MessageType Catalog where
  name := "Catalog"
  empty := {}
  fields := [
    .text 2 "default_schema" Catalog.defaultSchema (fun x m => { m with defaultSchema := x }),
    .messages Schema.messageType 4 "schemas" Catalog.schemas (fun x m => { m with schemas := x })]

def Parameter.messageType : MessageType Parameter where
  name := "Parameter"
  empty := {}
  fields := [
    .int32 1 "number" Parameter.number (fun x m => { m with number := x }),
    .message Column.messageType 2 "column" Parameter.column (fun x m => { m with column := x })]

def Query.messageType : MessageType Query where
  name := "Query"
  empty := {}
  fields := [
    .text 1 "text" Query.text (fun x m => { m with text := x }),
    .text 2 "name" Query.name (fun x m => { m with name := x }),
    .text 3 "cmd" Query.cmd (fun x m => { m with cmd := x }),
    .messages Column.messageType 4 "columns" Query.columns (fun x m => { m with columns := x }),
    .messages Parameter.messageType 5 "params" Query.params (fun x m => { m with params := x })]

def Request.messageType : MessageType Request where
  name := "CodeGenRequest"
  empty := {}
  fields := [
    .message Settings.messageType 1 "settings" Request.settings
      (fun x m => { m with settings := x }),
    .message Catalog.messageType 2 "catalog" Request.catalog (fun x m => { m with catalog := x }),
    .messages Query.messageType 3 "queries" Request.queries (fun x m => { m with queries := x }),
    .text 4 "sqlc_version" Request.sqlcVersion (fun x m => { m with sqlcVersion := x }),
    .bytes 5 "plugin_options" Request.pluginOptions (fun x m => { m with pluginOptions := x })]

def Response.messageType : MessageType Response where
  name := "CodeGenResponse"
  empty := {}
  fields := [
    .messages File.messageType 1 "files" Response.files (fun x m => { m with files := x })]

end TypedSql.Plugin
