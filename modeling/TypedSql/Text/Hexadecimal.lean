/-!
Hexadecimal digits: written in lower case, read in either.
-/

namespace TypedSql.Text.Hexadecimal

def digit (n : Nat) : Char :=
  Nat.digitChar n

def digits (n : Nat) : List Char :=
  Nat.toDigits 16 n

def digitValue? (c : Char) : Option Nat :=
  if '0' ≤ c ∧ c ≤ '9' then some (c.toNat - 48)
  else if 'a' ≤ c ∧ c ≤ 'f' then some (c.toNat - 87)
  else if 'A' ≤ c ∧ c ≤ 'F' then some (c.toNat - 55)
  else none

/-- The number that digits continue. -/
def valueFrom? (value : Nat) : List Char → Option Nat
  | [] => some value
  | c :: rest =>
    match digitValue? c with
    | some digit => valueFrom? (value * 16 + digit) rest
    | none => none

def char? (digits : List Char) : Option Char :=
  match valueFrom? 0 digits with
  | some n => if n.isValidChar then some (Char.ofNat n) else none
  | none => none

theorem digitValue?_lt {c : Char} {n : Nat} (h : digitValue? c = some n) : n < 16 := by
  simp only [digitValue?, Char.le_def, UInt32.le_iff_toNat_le] at h
  split at h
  · rename_i bounds
    obtain ⟨rfl⟩ := h
    have : c.toNat ≤ 57 := bounds.2
    omega
  · split at h
    · rename_i bounds
      obtain ⟨rfl⟩ := h
      have : c.toNat ≤ 102 := bounds.2
      omega
    · split at h
      · rename_i bounds
        obtain ⟨rfl⟩ := h
        have : c.toNat ≤ 70 := bounds.2
        omega
      · simp at h

end TypedSql.Text.Hexadecimal
