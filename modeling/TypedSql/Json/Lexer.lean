import TypedSql.Json.Syntax
import TypedSql.Text.Hexadecimal

/-!
JSON bytes as tokens. The lexer looks at one byte at a time and remembers what it is inside of: a
string, an escape, or a word. A word is a longest run of letters, digits and the signs of numbers;
it has to be a literal or a numeral as a whole. Spaces, tabs and line ends separate tokens.
-/

namespace TypedSql.Json

def isDigit (b : UInt8) : Bool := '0'.toUInt8 ≤ b && b ≤ '9'.toUInt8

def digitValue (b : UInt8) : Nat := b.toNat - 48

def isWordByte (b : UInt8) : Bool :=
  isDigit b || ('a'.toUInt8 ≤ b && b ≤ 'z'.toUInt8) || ('A'.toUInt8 ≤ b && b ≤ 'Z'.toUInt8) ||
    b == '+'.toUInt8 || b == '-'.toUInt8 || b == '.'.toUInt8

def isSpace (b : UInt8) : Bool :=
  b == ' '.toUInt8 || b == '\t'.toUInt8 || b == '\n'.toUInt8 || b == '\r'.toUInt8

/-- The digits at the front, and what follows them. -/
def spanDigits (word : Bytes) : List Nat × Bytes :=
  ((word.takeWhile isDigit).map digitValue, word.dropWhile isDigit)

def exponent? : Bytes → Option (Option (Bool × List Nat))
  | [] => some none
  | mark :: rest =>
    if mark == 'e'.toUInt8 || mark == 'E'.toUInt8 then
      let negative := rest.head? == some '-'.toUInt8
      let signed := negative || rest.head? == some '+'.toUInt8
      let (digits, rest) := spanDigits (if signed then rest.drop 1 else rest)
      if digits = [] ∨ rest ≠ [] then none else some (some (negative, digits))
    else none

/-- A word read as a number: no leading zero, and digits on both sides of the point. -/
def Numeral.ofWord? (word : Bytes) : Option Numeral :=
  let negative := word.head? == some '-'.toUInt8
  let (whole, rest) := spanDigits (if negative then word.drop 1 else word)
  if whole = [] ∨ (whole.head? = some 0 ∧ whole ≠ [0]) then none
  else if rest.head? == some '.'.toUInt8 then
    let (fraction, rest) := spanDigits (rest.drop 1)
    if fraction = [] then none
    else (exponent? rest).map fun exponent => ⟨negative, whole, fraction, exponent⟩
  else (exponent? rest).map fun exponent => ⟨negative, whole, [], exponent⟩

def wordToken? (word : Bytes) : Option Token :=
  if word = Utf8.encode "null" then some .null
  else if word = Utf8.encode "true" then some (.bool true)
  else if word = Utf8.encode "false" then some (.bool false)
  else (Numeral.ofWord? word).map .number

def punctuation? (b : UInt8) : Option Token :=
  if b == '['.toUInt8 then some .openArray
  else if b == ']'.toUInt8 then some .closeArray
  else if b == '\x7b'.toUInt8 then some .openObject
  else if b == '\x7d'.toUInt8 then some .closeObject
  else if b == ','.toUInt8 then some .comma
  else if b == ':'.toUInt8 then some .colon
  else none

def escapeByte? (b : UInt8) : Option UInt8 :=
  if b == '"'.toUInt8 || b == '\\'.toUInt8 || b == '/'.toUInt8 then some b
  else if b == 'b'.toUInt8 then some 8
  else if b == 'f'.toUInt8 then some 12
  else if b == 'n'.toUInt8 then some 10
  else if b == 'r'.toUInt8 then some 13
  else if b == 't'.toUInt8 then some 9
  else none

def hexValue? (b : UInt8) : Option Nat :=
  Text.Hexadecimal.digitValue? (Char.ofNat b.toNat)

/-- What the lexer is inside of. Bytes and pieces already read are kept in reverse, and an escape
may lack `missing` more digits after the one to come. -/
inductive Inside where
  | nothing
  | word (bytes : Bytes)
  | string (pieces : List Piece)
  | escape (pieces : List Piece)
  | unit (pieces : List Piece) (missing value : Nat)

def beginToken? (b : UInt8) (tokens : List Token) : Option (Inside × List Token) :=
  if isSpace b then some (.nothing, tokens)
  else if b == '"'.toUInt8 then some (.string [], tokens)
  else if isWordByte b then some (.word [b], tokens)
  else (punctuation? b).map fun token => (.nothing, token :: tokens)

/-- Reads one byte. The tokens are kept in reverse. -/
def Inside.step? (inside : Inside) (b : UInt8) (tokens : List Token) :
    Option (Inside × List Token) :=
  match inside with
  | .nothing => beginToken? b tokens
  | .word bytes =>
    if isWordByte b then some (.word (b :: bytes), tokens)
    else (wordToken? bytes.reverse).bind fun token => beginToken? b (token :: tokens)
  | .string pieces =>
    if b == '"'.toUInt8 then some (.nothing, .string pieces.reverse :: tokens)
    else if b == '\\'.toUInt8 then some (.escape pieces, tokens)
    else if b < 0x20 then none
    else some (.string (.byte b :: pieces), tokens)
  | .escape pieces =>
    if b == 'u'.toUInt8 then some (.unit pieces 3 0, tokens)
    else (escapeByte? b).map fun value => (.string (.escape value :: pieces), tokens)
  | .unit pieces missing value =>
    (hexValue? b).map fun digit =>
      let value := value * 16 + digit
      match missing with
      | 0 => (.string (.unit value :: pieces), tokens)
      | missing + 1 => (.unit pieces missing value, tokens)

def Inside.lex? (inside : Inside) (tokens : List Token) : Bytes → Option (List Token)
  | [] =>
    match inside with
    | .nothing => some tokens.reverse
    | .word bytes => (wordToken? bytes.reverse).map fun token => (token :: tokens).reverse
    | _ => none
  | b :: rest =>
    match inside.step? b tokens with
    | some (inside, tokens) => inside.lex? tokens rest
    | none => none

def lex? (bytes : Bytes) : Option (List Token) :=
  Inside.nothing.lex? [] bytes

end TypedSql.Json
