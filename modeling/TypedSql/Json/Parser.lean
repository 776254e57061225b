import TypedSql.Json.Lexer

/-!
Tokens as a tree. The reader keeps a stack of the arrays and objects that it is inside of, so the
depth of a text is bounded only by its length. One value has to fill the whole text.
-/

namespace TypedSql.Json

/-- An array or object that waits for the value being read. Earlier entries are in reverse. -/
inductive Frame where
  | array (items : List Tree)
  | object (members : List (List Piece × Tree)) (name : List Piece)

/-- What the reader is waiting for: a value, the name of a member, the colon after it, or what
follows a whole value. It may be the end of an array or object that has just begun. -/
inductive Awaiting where
  | value (mayClose : Bool)
  | member (members : List (List Piece × Tree)) (mayClose : Bool)
  | colon (members : List (List Piece × Tree)) (name : List Piece)
  | next (tree : Tree)

def Token.tree? : Token → Option Tree
  | .null => some .null
  | .bool value => some (.bool value)
  | .number numeral => some (.number numeral)
  | .string pieces => some (.string pieces)
  | _ => none

def Awaiting.step? (awaiting : Awaiting) (stack : List Frame) (token : Token) :
    Option (Awaiting × List Frame) :=
  match awaiting, token, stack with
  | .value _, .openArray, _ => some (.value true, .array [] :: stack)
  | .value _, .openObject, _ => some (.member [] true, stack)
  | .value true, .closeArray, .array items :: stack => some (.next (.array items.reverse), stack)
  | .value _, token, _ => token.tree?.map fun tree => (.next tree, stack)
  | .member members true, .closeObject, _ => some (.next (.object members.reverse), stack)
  | .member members _, .string pieces, _ => some (.colon members pieces, stack)
  | .colon members name, .colon, _ => some (.value false, .object members name :: stack)
  | .next tree, .comma, .array items :: stack =>
    some (.value false, .array (tree :: items) :: stack)
  | .next tree, .closeArray, .array items :: stack =>
    some (.next (.array (tree :: items).reverse), stack)
  | .next tree, .comma, .object members name :: stack =>
    some (.member ((name, tree) :: members) false, stack)
  | .next tree, .closeObject, .object members name :: stack =>
    some (.next (.object ((name, tree) :: members).reverse), stack)
  | _, _, _ => none

def Awaiting.run? (awaiting : Awaiting) (stack : List Frame) : List Token → Option Tree
  | [] =>
    match awaiting, stack with
    | .next tree, [] => some tree
    | _, _ => none
  | token :: rest =>
    match awaiting.step? stack token with
    | some (awaiting, stack) => awaiting.run? stack rest
    | none => none

def parse? (bytes : Bytes) : Option Tree :=
  (lex? bytes).bind (Awaiting.run? (.value false) [])

end TypedSql.Json
