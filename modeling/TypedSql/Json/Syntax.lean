import TypedSql.Text.Utf8

/-!
JSON texts as they are written, before anybody asks what the values mean: strings keep their
escapes, numbers their digits, and objects their members in order, repeated names included.
-/

namespace TypedSql.Json

/-- One piece of a string as it is written: a byte that stands for itself, a backslash with one more
character, or a backslash with `u` and four hexadecimal digits. -/
inductive Piece where
  | byte (value : UInt8)
  | escape (value : UInt8)
  | unit (value : Nat)
deriving DecidableEq

structure Numeral where
  negative : Bool
  whole : List Nat
  fraction : List Nat
  exponent : Option (Bool × List Nat)
deriving DecidableEq

inductive Token where
  | openArray
  | closeArray
  | openObject
  | closeObject
  | comma
  | colon
  | null
  | bool (value : Bool)
  | number (numeral : Numeral)
  | string (pieces : List Piece)
deriving DecidableEq

inductive Tree where
  | null
  | bool (value : Bool)
  | number (numeral : Numeral)
  | string (pieces : List Piece)
  | array (items : List Tree)
  | object (members : List (List Piece × Tree))

/-- The bytes that pieces stand for, after the bytes read already, which are in reverse. A unit from
the first surrogate range is one character together with the unit from the second range that has to
follow it. -/
def bytesOfPieces? (before : Bytes) : List Piece → Option Bytes
  | [] => some before.reverse
  | .byte b :: rest => bytesOfPieces? (b :: before) rest
  | .escape b :: rest => bytesOfPieces? (b :: before) rest
  | .unit n :: rest =>
    if 0xD800 ≤ n ∧ n ≤ 0xDBFF then
      match rest with
      | .unit m :: rest =>
        if 0xDC00 ≤ m ∧ m ≤ 0xDFFF then
          let c := Char.ofNat (0x10000 + (n - 0xD800) * 0x400 + (m - 0xDC00))
          bytesOfPieces? ((Utf8.encode c.toString).reverse ++ before) rest
        else none
      | _ => none
    else if 0xDC00 ≤ n ∧ n ≤ 0xDFFF then none
    else bytesOfPieces? ((Utf8.encode (Char.ofNat n).toString).reverse ++ before) rest

/-- The text that a written string denotes, unless it has half a surrogate pair or bytes that are
no text. -/
def textOfPieces? (pieces : List Piece) : Option String :=
  (bytesOfPieces? [] pieces).bind Utf8.decode?

end TypedSql.Json
