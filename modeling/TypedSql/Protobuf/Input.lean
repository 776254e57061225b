import TypedSql.Text.Utf8

/-!
Bytes that are still to be read, together with their number. Reading gives a value and the input
that follows it, which is shorter; this is what makes every loop over an input end.
-/

namespace TypedSql.Protobuf

structure Input where
  bytes : Bytes
  left : Nat
  left_eq : left = bytes.length

namespace Input

def ofBytes (bytes : Bytes) : Input :=
  ⟨bytes, bytes.length, rfl⟩

@[simp] theorem left_ofBytes (bytes : Bytes) : (ofBytes bytes).left = bytes.length := rfl

@[simp] theorem bytes_ofBytes (bytes : Bytes) : (ofBytes bytes).bytes = bytes := rfl

@[ext] theorem ext {a b : Input} (h : a.bytes = b.bytes) : a = b := by
  obtain ⟨bytes, left, rfl⟩ := a
  obtain ⟨bytes', left', rfl⟩ := b
  subst h
  rfl

theorem eq_ofBytes (input : Input) : input = ofBytes input.bytes := ext rfl

def drop (input : Input) (n : Nat) : Input :=
  ⟨input.bytes.drop n, input.left - n, by simp [input.left_eq]⟩

@[simp] theorem left_drop (input : Input) (n : Nat) : (input.drop n).left = input.left - n := rfl

@[simp] theorem bytes_drop (input : Input) (n : Nat) :
    (input.drop n).bytes = input.bytes.drop n := rfl

end Input

def Input.next? : Input → Option (UInt8 × Input)
  | ⟨[], _, _⟩ => none
  | ⟨byte :: rest, left, h⟩ => some (byte, ⟨rest, left - 1, by simp [h]⟩)

@[simp] theorem Input.next?_ofBytes_cons (byte : UInt8) (rest : Bytes) :
    (Input.ofBytes (byte :: rest)).next? = some (byte, Input.ofBytes rest) := rfl

theorem Input.next?_shorter {input rest : Input} {byte : UInt8}
    (h : input.next? = some (byte, rest)) : rest.left < input.left := by
  obtain ⟨bytes, left, rfl⟩ := input
  cases bytes with
  | nil => simp [Input.next?] at h
  | cons first bytes =>
      simp only [Input.next?, Option.some.injEq, Prod.mk.injEq] at h
      obtain ⟨_, rfl⟩ := h
      simp

end TypedSql.Protobuf
