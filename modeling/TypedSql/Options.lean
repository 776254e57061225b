import TypedSql.Json.Value
import TypedSql.Options.Literal
import TypedSql.Trace

/-!
Options of the generator. They come as a JSON object of strings, or as pairs `key=value` with
commas between them inside a string literal; nothing at all stands for the defaults. Of values with
one key the last counts, and unknown keys are reported and passed over.
-/

namespace TypedSql

structure Options where
  workersTypes : String := Generator.defaultWorkersTypes
  workersTypesV3 : Bool := false
deriving DecidableEq

namespace Options

/-- The package that generated files import. Without a version it is named alone. -/
def package (options : Options) : String :=
  if options.workersTypes = "" then Generator.workersTypesPackage
  else Generator.workersTypesPackage ++ "/" ++ options.workersTypes

def versionKey : String := "workers-types"

def thirdVersionKey : String := "workers-types-v3"

def ofPairs (pairs : List (String × String)) : Options where
  workersTypes := (pairs.lookup versionKey).getD Generator.defaultWorkersTypes
  workersTypesV3 := pairs.lookup thirdVersionKey == some "1"

def unknownKeys (pairs : List (String × String)) : List String :=
  (pairs.map Prod.fst).filter fun key => key != versionKey && key != thirdVersionKey

/-- One pair `key=value`. Without an equals sign the value is empty. -/
def pairOfChars (item : List Char) : String × String :=
  (String.ofList (item.takeWhile (· != '=')), String.ofList ((item.dropWhile (· != '=')).drop 1))

/-- The pairs of a text. Empty items are passed over. -/
def pairsOfText (text : String) : List (String × String) :=
  ((text.toList.splitOn ',').filter (· != [])).map pairOfChars

/-- How deep arrays and objects may lie inside each other, counting the outermost object. -/
def jsonDepth : Nat := 127

def pairsOfJson (bytes : Bytes) : Except Cause (List (String × String)) :=
  match (Json.parse? bytes).bind (Json.Value.ofTree? jsonDepth) with
  | some (.object members) =>
    members.mapM fun (key, value) =>
      match value with
      | .string text => .ok (key, text)
      | other => .error (.optionNotString key other.text)
  | _ => .error .optionsNotJson

def pairsOfLiteral (bytes : Bytes) : Except Cause (List (String × String)) :=
  match Utf8.decode? bytes with
  | none => .error (.optionsNotText ((Utf8.fault? bytes).getD (.incomplete 0)))
  | some text =>
    match Literal.unquote? text with
    | none => .error (.optionsNotQuoted text)
    | some body => .ok (Text.lastByName (pairsOfText body))

/-- The pairs of a payload, with different keys in increasing order. -/
def pairs (payload : Bytes) : Except Cause (List (String × String)) :=
  if payload = [] then .ok []
  else if payload.head? = some '\x7b'.toUInt8 then pairsOfJson payload
  else pairsOfLiteral payload

def parse (payload : Bytes) : Traced Options :=
  match pairs payload with
  | .error cause => .fail cause
  | .ok pairs => ⟨(unknownKeys pairs).map .unknownOption, .ok (ofPairs pairs)⟩

end Options

end TypedSql
