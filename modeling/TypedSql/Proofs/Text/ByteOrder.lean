import Mathlib.Data.List.Basic
import TypedSql.Text.Utf8

/-!
The order of texts is the order of their bytes. The bytes of a smaller character come before those
of a greater one at the first byte that differs, and neither begins with the other, so what follows
them does not matter.
-/

namespace TypedSql.Utf8

/-- Bytes that come before others, whatever follows the ones and the others. -/
def Below (first second : Bytes) : Prop :=
  ∀ rest rest', first ++ rest < second ++ rest'

theorem below_ofNat_cons {x y : Nat} {first second : Bytes} (hx : x < 256) (hy : y < 256)
    (h : x < y ∨ x = y ∧ Below first second) :
    Below (UInt8.ofNat x :: first) (UInt8.ofNat y :: second) := by
  intro rest rest'
  rcases h with h | ⟨rfl, h⟩
  · refine List.cons_lt_cons_iff.mpr (Or.inl ?_)
    rw [UInt8.lt_iff_toNat_lt, UInt8.toNat_ofNat', UInt8.toNat_ofNat', Nat.mod_eq_of_lt hx,
      Nat.mod_eq_of_lt hy]
    exact h
  · exact List.cons_lt_cons_iff.mpr (Or.inr ⟨rfl, h rest rest'⟩)

section Continuation

variable {v w : Nat}

theorem below_last (h : v % 64 < w % 64) :
    Below [UInt8.ofNat (v % 64 + 128)] [UInt8.ofNat (w % 64 + 128)] :=
  below_ofNat_cons (by omega) (by omega) (Or.inl (by omega))

theorem below_lastTwo (h : v % 4096 < w % 4096) :
    Below [UInt8.ofNat (v / 64 % 64 + 128), UInt8.ofNat (v % 64 + 128)]
      [UInt8.ofNat (w / 64 % 64 + 128), UInt8.ofNat (w % 64 + 128)] := by
  apply below_ofNat_cons (by omega) (by omega)
  rcases Nat.lt_or_ge (v / 64 % 64) (w / 64 % 64) with hdigit | hdigit
  · exact Or.inl (by omega)
  · exact Or.inr ⟨by omega, below_last (by omega)⟩

theorem below_lastThree (h : v % 262144 < w % 262144) :
    Below
      [UInt8.ofNat (v / 4096 % 64 + 128), UInt8.ofNat (v / 64 % 64 + 128),
        UInt8.ofNat (v % 64 + 128)]
      [UInt8.ofNat (w / 4096 % 64 + 128), UInt8.ofNat (w / 64 % 64 + 128),
        UInt8.ofNat (w % 64 + 128)] := by
  apply below_ofNat_cons (by omega) (by omega)
  rcases Nat.lt_or_ge (v / 4096 % 64) (w / 4096 % 64) with hdigit | hdigit
  · exact Or.inl (by omega)
  · exact Or.inr ⟨by omega, below_lastTwo (by omega)⟩

end Continuation

/-- The number of bytes shows in the first of them, and characters with more bytes are greater. -/
theorem below_utf8EncodeChar {c d : Char} (h : c < d) :
    Below (String.utf8EncodeChar c) (String.utf8EncodeChar d) := by
  have hval : c.val.toNat < d.val.toNat := h
  have hmost : d.val.toNat < 1114112 := by
    have hvalid : d.val.toNat.isValidChar := d.valid
    unfold Nat.isValidChar at hvalid
    omega
  unfold String.utf8EncodeChar
  generalize c.val.toNat = v at hval
  generalize d.val.toNat = w at hval hmost
  dsimp only
  -- One case for each number of bytes of the smaller character: where the greater one has more, its
  -- first byte is greater, and else the digits are compared from the first one.
  by_cases hone : v ≤ 127
  · rw [if_pos hone]
    split_ifs
    all_goals exact below_ofNat_cons (by omega) (by omega) (Or.inl (by omega))
  have hone' : ¬ w ≤ 127 := by omega
  rw [if_neg hone, if_neg hone']
  by_cases htwo : v ≤ 2047
  · rw [if_pos htwo]
    split_ifs
    · apply below_ofNat_cons (by omega) (by omega)
      rcases Nat.lt_or_ge (v / 64) (w / 64) with hdigit | hdigit
      · exact Or.inl (by omega)
      · exact Or.inr ⟨by omega, below_last (by omega)⟩
    all_goals exact below_ofNat_cons (by omega) (by omega) (Or.inl (by omega))
  have htwo' : ¬ w ≤ 2047 := by omega
  rw [if_neg htwo, if_neg htwo']
  by_cases hthree : v ≤ 65535
  · rw [if_pos hthree]
    split_ifs
    · apply below_ofNat_cons (by omega) (by omega)
      rcases Nat.lt_or_ge (v / 4096) (w / 4096) with hdigit | hdigit
      · exact Or.inl (by omega)
      · exact Or.inr ⟨by omega, below_lastTwo (by omega)⟩
    · exact below_ofNat_cons (by omega) (by omega) (Or.inl (by omega))
  have hthree' : ¬ w ≤ 65535 := by omega
  rw [if_neg hthree, if_neg hthree']
  apply below_ofNat_cons (by omega) (by omega)
  rcases Nat.lt_or_ge (v / 262144) (w / 262144) with hdigit | hdigit
  · exact Or.inl (by omega)
  · exact Or.inr ⟨by omega, below_lastThree (by omega)⟩

/-- The bytes of a text are those of its characters. -/
theorem encode_eq (text : String) : encode text = text.toList.flatMap String.utf8EncodeChar := by
  have htext : text.toByteArray = text.toList.utf8Encode := by
    conv => lhs; rw [← String.ofList_toList (s := text)]
    rfl
  rw [encode, htext, List.utf8Encode, List.toList_data_toByteArray]

theorem flatMap_lt_flatMap {first second : List Char} (h : first < second) :
    first.flatMap String.utf8EncodeChar < second.flatMap String.utf8EncodeChar := by
  induction h with
  | @nil c rest =>
      rw [List.flatMap_nil, List.flatMap_cons]
      have hlength := String.length_utf8EncodeChar c
      have hpos := Char.utf8Size_pos c
      cases hbytes : String.utf8EncodeChar c with
      | nil =>
          rw [hbytes, List.length_nil] at hlength
          omega
      | cons byte bytes => exact List.nil_lt_cons _ _
  | @rel c rest d rest' hchar =>
      rw [List.flatMap_cons, List.flatMap_cons]
      exact below_utf8EncodeChar hchar _ _
  | @cons c rest rest' hrest ih =>
      rw [List.flatMap_cons, List.flatMap_cons]
      exact List.append_left_lt ih

/-- A text before another one is before it in the order of bytes. -/
theorem encode_lt_encode {a b : String} (h : a < b) : encode a < encode b := by
  rw [encode_eq, encode_eq]
  exact flatMap_lt_flatMap (String.lt_iff.mp h)

end TypedSql.Utf8
