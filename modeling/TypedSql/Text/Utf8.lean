/-!
Texts as bytes. Bytes that are a text are read by the core library; for any others this module
says where the first bad sequence stands and how many bytes of it could still have begun a
character, or that the input ends inside a character.
-/

namespace TypedSql

/-- What programs exchange and files hold. -/
abbrev Bytes := List UInt8

end TypedSql

namespace TypedSql.Utf8

def encode (text : String) : Bytes :=
  text.toByteArray.data.toList

/-- Where bytes stop being a text: the `length` bytes from `index` begin no character, or the input
ends inside the character that begins at `index`. -/
inductive Fault where
  | invalid (index length : Nat)
  | incomplete (index : Nat)
deriving DecidableEq

def Fault.message : Fault → String
  | .invalid index length =>
      "invalid utf-8 sequence of " ++ toString length ++ " bytes from index " ++ toString index
  | .incomplete index =>
      "incomplete utf-8 byte sequence from index " ++ toString index

/-- What may follow inside a character: how many bytes, and the bounds of the next of them. -/
structure Expected where
  count : Nat
  least : UInt8
  most : UInt8
deriving DecidableEq

/-- What a first byte leads to. The bounds of a second byte keep out overlong forms, surrogates
and numbers beyond the last code point. -/
def Expected.ofFirst? (byte : UInt8) : Option Expected :=
  if byte < 0x80 then some ⟨0, 0x80, 0xBF⟩
  else if byte < 0xC2 then none
  else if byte < 0xE0 then some ⟨1, 0x80, 0xBF⟩
  else if byte = 0xE0 then some ⟨2, 0xA0, 0xBF⟩
  else if byte = 0xED then some ⟨2, 0x80, 0x9F⟩
  else if byte < 0xF0 then some ⟨2, 0x80, 0xBF⟩
  else if byte = 0xF0 then some ⟨3, 0x90, 0xBF⟩
  else if byte < 0xF4 then some ⟨3, 0x80, 0xBF⟩
  else if byte = 0xF4 then some ⟨3, 0x80, 0x8F⟩
  else none

/-- Looks for the first fault. The current character began at `start`, `taken` of its bytes are
read, and `expected` tells what may follow. -/
def faultFrom? (start taken : Nat) (expected : Expected) : Bytes → Option Fault
  | [] => if expected.count = 0 then none else some (.incomplete start)
  | byte :: rest =>
    if expected.count = 0 then
      match Expected.ofFirst? byte with
      | some next => faultFrom? (start + taken) 1 next rest
      | none => some (.invalid (start + taken) 1)
    else if expected.least ≤ byte ∧ byte ≤ expected.most then
      faultFrom? start (taken + 1) ⟨expected.count - 1, 0x80, 0xBF⟩ rest
    else some (.invalid start taken)

def fault? (bytes : Bytes) : Option Fault :=
  faultFrom? 0 0 ⟨0, 0x80, 0xBF⟩ bytes

def decode? (bytes : Bytes) : Option String :=
  String.fromUTF8? ⟨bytes.toArray⟩

/-- Reading the bytes of a text gives the text. -/
@[simp] theorem decode?_encode (text : String) : decode? (encode text) = some text := by
  change String.fromUTF8? text.toByteArray = some text
  rw [String.fromUTF8?, dif_pos text.isValidUTF8]
  rfl

example : fault? [0x61, 0xE2, 0x82] = some (.incomplete 1) := by decide
example : fault? [0x61, 0xE2, 0x82, 0x61] = some (.invalid 1 2) := by decide
example : fault? [0xED, 0xA0, 0x80] = some (.invalid 0 1) := by decide

end TypedSql.Utf8
