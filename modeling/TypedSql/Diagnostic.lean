/-!
The catalogue of diagnostics: a code for every kind of failure that a user can act on, with the
phase that it belongs to, its general meaning, and advice.
-/

namespace TypedSql

inductive Phase where
  | decode
  | options
  | aliasing
  | resolve
  | internal
deriving DecidableEq

def Phase.name : Phase → String
  | .decode => "Decode"
  | .options => "Options"
  | .aliasing => "Rewrite"
  | .resolve => "Resolve"
  | .internal => "Internal"

inductive DiagnosticCode where
  | requestDecode
  | unknownCommand
  | optionsMalformed
  | optionValueNotString
  | embedTableMissing
  | embedColumnsNotFound
  | internalBug
deriving DecidableEq

namespace DiagnosticCode

def all : List DiagnosticCode :=
  [.requestDecode, .unknownCommand, .optionsMalformed, .optionValueNotString, .embedTableMissing,
    .embedColumnsNotFound, .internalBug]

def number : DiagnosticCode → String
  | .requestDecode => "TSD0001"
  | .unknownCommand => "TSD0002"
  | .optionsMalformed => "TSD0100"
  | .optionValueNotString => "TSD0101"
  | .embedTableMissing => "TSD0200"
  | .embedColumnsNotFound => "TSD0201"
  | .internalBug => "TSD0901"

/-- The number with a short description, as tools that exchange diagnostics name it. -/
def title : DiagnosticCode → String
  | .requestDecode => "TSD0001RequestDecode"
  | .unknownCommand => "TSD0002UnknownCommand"
  | .optionsMalformed => "TSD0100OptionsMalformed"
  | .optionValueNotString => "TSD0101OptionValueNotString"
  | .embedTableMissing => "TSD0200EmbedTableMissing"
  | .embedColumnsNotFound => "TSD0201EmbedColumnsNotFound"
  | .internalBug => "TSD0901InternalBug"

def ofTitle? (title : String) : Option DiagnosticCode :=
  all.find? fun code => code.title == title

def phase : DiagnosticCode → Phase
  | .requestDecode => .decode
  | .unknownCommand => .decode
  | .optionsMalformed => .options
  | .optionValueNotString => .options
  | .embedTableMissing => .resolve
  | .embedColumnsNotFound => .aliasing
  | .internalBug => .internal

def meaning : DiagnosticCode → String
  | .requestDecode => "failed to decode the code generation request"
  | .unknownCommand => "unknown query command"
  | .optionsMalformed => "plugin options are malformed"
  | .optionValueNotString => "plugin option value is not a string"
  | .embedTableMissing => "embedded table is not in the catalog"
  | .embedColumnsNotFound => "embedded column list not found in query text"
  | .internalBug => "internal sqlc-gen-ts-d1 bug"

def help? : DiagnosticCode → Option String
  | .requestDecode => none
  | .unknownCommand => some "Supported commands are :exec, :one and :many."
  | .optionsMalformed =>
    some "Pass options as a JSON object of strings or as a quoted \"key=value,key=value\" string."
  | .optionValueNotString => none
  | .embedTableMissing =>
    some ("The query and the schema disagree; regenerate with the same sqlc version " ++
      "that parsed the schema.")
  | .embedColumnsNotFound =>
    some ("The query and the schema disagree; regenerate with the same sqlc version " ++
      "that parsed the schema.")
  | .internalBug =>
    some ("This is a bug in sqlc-gen-ts-d1. Please report it with the sqlc configuration " ++
      "and queries.")

end DiagnosticCode

/-- A code with what happened. Every diagnostic of this program is an error. -/
structure Diagnostic where
  code : DiagnosticCode
  message : String
deriving DecidableEq

namespace Diagnostic

def severity : String := "Error"

/-- The diagnostic in full, with the advice on a second line. -/
def display (diagnostic : Diagnostic) : String :=
  diagnostic.code.number ++ " " ++ diagnostic.code.phase.name ++ " " ++ severity ++ ": " ++
    diagnostic.message ++
    match diagnostic.code.help? with
    | some help => "\n  help: " ++ help
    | none => ""

def catalogueRow (code : DiagnosticCode) : String :=
  "| " ++ code.number ++ " | " ++ code.phase.name ++ " | " ++ code.meaning ++ " | " ++
    code.help?.getD "" ++ " |\n"

def catalogue : String :=
  "# sqlc-gen-ts-d1 diagnostics catalog\n\n" ++
    "This document is generated from `crates/tsd1gen-core/src/diagnostics.rs`.\n\n" ++
    "| Code | Phase | Message | Help |\n" ++
    "| ---- | ----- | ------- | ---- |\n" ++
    String.join (DiagnosticCode.all.map catalogueRow)

end Diagnostic

end TypedSql
