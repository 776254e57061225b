import TypedSql.Protobuf.Input

/-!
Numbers of sixty-four bits in groups of seven, the lowest group first. Every byte but the last has
its high bit set. Reading accepts up to ten groups, of which the tenth has one bit; writing uses as
few groups as it can. A number that is written is read back, whatever follows it.
-/

namespace TypedSql.Protobuf.Varint

/-- Reads a number of at most `groups` groups, of which the last possible one has one bit. -/
def readGroups? : (groups : Nat) → Input → Option (Nat × Input)
  | 0, _ => none
  | groups + 1, input =>
    match input.next? with
    | none => none
    | some (byte, rest) =>
      if byte < 0x80 then
        if groups = 0 ∧ 1 < byte then none else some (byte.toNat, rest)
      else
        match readGroups? groups rest with
        | none => none
        | some (high, rest) => some (byte.toNat - 128 + 128 * high, rest)

def maxGroups : Nat := 10

def read? (input : Input) : Option (Nat × Input) :=
  readGroups? maxGroups input

def write (n : Nat) : Bytes :=
  if n < 128 then [UInt8.ofNat n]
  else UInt8.ofNat (n % 128 + 128) :: write (n / 128)
termination_by n
decreasing_by omega

theorem write_ne_nil (n : Nat) : write n ≠ [] := by
  rw [write]
  split <;> simp

theorem readGroups?_shorter {groups n : Nat} {input rest : Input}
    (h : readGroups? groups input = some (n, rest)) : rest.left < input.left := by
  induction groups generalizing n input rest with
  | zero => simp [readGroups?] at h
  | succ groups ih =>
      rw [readGroups?] at h
      split at h
      · simp at h
      · next byte following found =>
          have first := Input.next?_shorter found
          split at h
          · split at h
            · simp at h
            · simp only [Option.some.injEq, Prod.mk.injEq] at h
              obtain ⟨_, rfl⟩ := h
              exact first
          · split at h
            · simp at h
            · next high after readMore =>
                simp only [Option.some.injEq, Prod.mk.injEq] at h
                obtain ⟨_, rfl⟩ := h
                exact Nat.lt_trans (ih readMore) first

theorem read?_shorter {n : Nat} {input rest : Input} (h : read? input = some (n, rest)) :
    rest.left < input.left :=
  readGroups?_shorter h

private theorem toNat_ofNat_of_lt {n : Nat} (h : n < 256) : (UInt8.ofNat n).toNat = n := by
  simp
  omega

/-- One more than the largest number of some groups with one bit on top. -/
def limit : (groups : Nat) → Nat
  | 0 => 2
  | groups + 1 => 128 * limit groups

theorem readGroups?_write (groups n : Nat) (rest : Bytes) (h : n < limit groups) :
    readGroups? (groups + 1) (.ofBytes (write n ++ rest)) = some (n, .ofBytes rest) := by
  induction groups generalizing n with
  | zero =>
      have : n = 0 ∨ n = 1 := by
        simp only [limit] at h
        omega
      rcases this with rfl | rfl <;> simp [write, readGroups?]
  | succ groups ih =>
      rw [write]
      split
      · next small =>
          have value := toNat_ofNat_of_lt (n := n) (by omega)
          have low : UInt8.ofNat n < 0x80 := by
            rw [UInt8.lt_iff_toNat_lt, value]
            simpa using small
          rw [readGroups?]
          simp only [List.cons_append, List.nil_append, Input.next?_ofBytes_cons]
          rw [if_pos low, if_neg (by omega), value]
      · next large =>
          have value := toNat_ofNat_of_lt (n := n % 128 + 128) (by omega)
          have high : ¬ UInt8.ofNat (n % 128 + 128) < 0x80 := by
            rw [UInt8.lt_iff_toNat_lt, value]
            simp
          have bound : n / 128 < limit groups := by
            simp only [limit] at h
            omega
          rw [readGroups?]
          simp only [List.cons_append, Input.next?_ofBytes_cons]
          rw [if_neg high, ih _ bound, value]
          simp only [Option.some.injEq, Prod.mk.injEq, and_true]
          omega

/-- A number of sixty-four bits that is written is read back. -/
theorem read?_write {n : Nat} (h : n < UInt64.size) (rest : Bytes) :
    read? (.ofBytes (write n ++ rest)) = some (n, .ofBytes rest) :=
  readGroups?_write 9 n rest h

end TypedSql.Protobuf.Varint
