import TypedSql.Json.Number
import TypedSql.Json.Parser
import TypedSql.Text.Keyed
import TypedSql.Text.Quoted

/-!
JSON values with their meaning: texts, numbers in range, and objects. `Value.text` writes a value
compactly; `Value.ofTree?` reads a written tree and refuses what has no meaning, such as half a
surrogate pair, or more arrays and objects inside each other than the given depth.
-/

namespace TypedSql.Json

inductive Value where
  | null
  | bool (value : Bool)
  | number (value : Number)
  | string (value : String)
  | array (items : List Value)
  | object (members : List (String × Value))

/-- A character inside a JSON string. Only quotes, backslashes and controls are escaped. -/
def escapeChar (c : Char) : List Char :=
  if c = '"' then ['\\', '"']
  else if c = '\\' then ['\\', '\\']
  else if c = '\x08' then ['\\', 'b']
  else if c = '\x0c' then ['\\', 'f']
  else if c = '\n' then ['\\', 'n']
  else if c = '\r' then ['\\', 'r']
  else if c = '\t' then ['\\', 't']
  else if c.toNat < 0x20 then
    ['\\', 'u', '0', '0', Nat.digitChar (c.toNat / 16), Nat.digitChar (c.toNat % 16)]
  else [c]

def stringText (text : String) : List Char :=
  '"' :: (text.toList.flatMap escapeChar ++ ['"'])

mutual

def Value.chars : Value → List Char
  | .null => ['n', 'u', 'l', 'l']
  | .bool true => ['t', 'r', 'u', 'e']
  | .bool false => ['f', 'a', 'l', 's', 'e']
  | .number value => value.text
  | .string value => stringText value
  | .array items => '[' :: (Value.itemChars items ++ [']'])
  | .object members => '\x7b' :: (Value.memberChars members ++ ['\x7d'])

def Value.itemChars : List Value → List Char
  | [] => []
  | [item] => item.chars
  | item :: rest => item.chars ++ (',' :: Value.itemChars rest)

def Value.memberChars : List (String × Value) → List Char
  | [] => []
  | [(name, value)] => stringText name ++ (':' :: value.chars)
  | (name, value) :: rest =>
    stringText name ++ (':' :: (value.chars ++ (',' :: Value.memberChars rest)))

end

def Value.text (value : Value) : String :=
  String.ofList value.chars

/-- The value of a tree with at most `depth` arrays and objects inside each other. Of members with
one name the last counts, and members are in the order of their names. -/
def Value.ofTree? (depth : Nat) : Tree → Option Value
  | .null => some .null
  | .bool value => some (.bool value)
  | .number numeral => numeral.value?.map .number
  | .string pieces => (textOfPieces? pieces).map .string
  | .array items =>
    match depth with
    | 0 => none
    | depth + 1 => (items.mapM (Value.ofTree? depth)).map .array
  | .object members =>
    match depth with
    | 0 => none
    | depth + 1 =>
      (members.mapM fun (name, tree) => do
        return (← textOfPieces? name, ← Value.ofTree? depth tree)).map
        fun members => .object (Text.lastByName members)

end TypedSql.Json
