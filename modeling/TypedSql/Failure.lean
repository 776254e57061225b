import TypedSql.Diagnostic
import TypedSql.Generator
import TypedSql.Output.SystemError
import TypedSql.Protobuf.Fault
import TypedSql.Text.Quoted
import TypedSql.Text.Utf8

/-!
Failures of a run. A failure is a cause together with what was being done when it arose; its message
names these from the outside in. Causes that a user can act on have a diagnostic code.
-/

namespace TypedSql

inductive Cause where
  | requestMalformed (fault : Protobuf.Fault)
  | requestNotJson
  | unknownCommand (query command : String)
  | parameterNumber (query : String) (number : Int)
  | optionsNotJson
  | optionsNotText (fault : Utf8.Fault)
  | optionsNotQuoted (text : String)
  | optionNotString (name value : String)
  | embedTableMissing (query table : String)
  | embedColumnsNotFound (query list table : String)
  | notPlainName (name : String)
  | unknownMethod (method : String)
  | system (error : SystemError)
  | outputDiffers (path existing generated : String)
deriving DecidableEq

namespace Cause

def code? : Cause → Option DiagnosticCode
  | requestMalformed _ => some .requestDecode
  | requestNotJson => some .requestDecode
  | unknownCommand .. => some .unknownCommand
  | parameterNumber .. => some .requestDecode
  | optionsNotJson => some .optionsMalformed
  | optionsNotText _ => some .optionsMalformed
  | optionsNotQuoted _ => some .optionsMalformed
  | optionNotString .. => some .optionValueNotString
  | embedTableMissing .. => some .embedTableMissing
  | embedColumnsNotFound .. => some .embedColumnsNotFound
  | notPlainName _ => some .internalBug
  | unknownMethod _ => none
  | system _ => none
  | outputDiffers .. => none

def jsonProblem : String := "malformed text"

def detail : Cause → String
  | requestMalformed fault => "CodeGenRequest: " ++ fault.message
  | requestNotJson => "request JSON: " ++ jsonProblem
  | unknownCommand query command =>
    "query " ++ Text.quoted query ++ " has command " ++ Text.quoted command
  | parameterNumber query number =>
    "query " ++ Text.quoted query ++ " has parameter number " ++ toString number
  | optionsNotJson => "options JSON: " ++ jsonProblem
  | optionsNotText fault => "options are not UTF-8: " ++ fault.message
  | optionsNotQuoted text =>
    "options must be a quoted string or a JSON object, got " ++ Text.quoted text
  | optionNotString name value =>
    "option " ++ Text.quoted name ++ " must be a string, got " ++ value
  | embedTableMissing query table =>
    "query " ++ Text.quoted query ++ " embeds table " ++ Text.quoted table ++
      ", which is not in the catalog"
  | embedColumnsNotFound query list table =>
    "query " ++ Text.quoted query ++ ": expected column list " ++ Text.quoted list ++
      " for embedded table " ++ Text.quoted table
  | notPlainName name =>
    "generated file name " ++ Text.quoted name ++ " is not a plain file name"
  | unknownMethod method =>
    "unknown method " ++ Text.quoted method ++ " (expected " ++
      Text.quoted Generator.generateMethod ++ ")"
  | system error => error.message
  | outputDiffers path existing generated =>
    "generated output differs: " ++ path ++ " (existing sha256 " ++ existing ++
      ", generated sha256 " ++ generated ++ ")"

def diagnostic? (cause : Cause) : Option Diagnostic :=
  cause.code?.map fun code => ⟨code, cause.detail⟩

def message (cause : Cause) : String :=
  match cause.diagnostic? with
  | some diagnostic => diagnostic.display
  | none => cause.detail

end Cause

inductive Activity where
  | parseOptions
  | aliasQuery (name : String)
  | resolveQuery (name : String)
  | readRequest (path : String)
  | readOutput (path : String)
  | createDirectory (path : String)
  | writeOutput (path : String)
deriving DecidableEq

def Activity.description : Activity → String
  | .parseOptions => "parse plugin options"
  | .aliasQuery name => "rewrite query " ++ name
  | .resolveQuery name => "resolve query " ++ name
  | .readRequest path => "read request: " ++ path
  | .readOutput path => "read existing output: " ++ path
  | .createDirectory path => "create output dir: " ++ path
  | .writeOutput path => "write output: " ++ path

structure Failure where
  cause : Cause
  activities : List Activity := []
deriving DecidableEq

namespace Failure

def during (failure : Failure) (activity : Activity) : Failure :=
  { failure with activities := activity :: failure.activities }

/-- The activities from the outside in, then the cause. -/
def message (failure : Failure) : String :=
  String.intercalate ": " (failure.activities.map Activity.description ++ [failure.cause.message])

/-- The number of the diagnostic in the failure, or `Error` if it has none. -/
def kind (failure : Failure) : String :=
  match failure.cause.code? with
  | some code => code.number
  | none => "Error"

end Failure

end TypedSql
