import TypedSql.Proofs.Json.Lexer

/-!
Natural numbers in JSON. The digits of a number are one word, which the lexer takes for the numeral
of the number, and a reader with a limit gets the number back from it.
-/

namespace TypedSql.Json

open Utf8 (encodeChars encodeChars_cons)

/-- A decimal digit is one byte, a digit of the same value. -/
theorem utf8EncodeChar_digit {c : Char} (h : c.isDigit = true) :
    ∃ byte, String.utf8EncodeChar c = [byte] ∧ isDigit byte = true ∧
      digitValue byte = c.toNat - 48 := by
  obtain ⟨hlow, hhigh⟩ := Char.isDigit_iff_toNat.mp h
  have hall : ∀ n < 58, 48 ≤ n →
      isDigit (UInt8.ofNat n) = true ∧ digitValue (UInt8.ofNat n) = n - 48 := by
    decide +kernel
  obtain ⟨_, hbytes⟩ | ⟨hlarge, _⟩ := Utf8.utf8EncodeChar_cases c
  · exact ⟨_, hbytes, hall c.toNat (Nat.lt_succ_of_le hhigh) hlow⟩
  · have hninety : '9'.toNat = 57 := rfl
    omega

/-- Decimal digits are read as their values, to the last one. -/
theorem spanDigits_encodeChars {digits : List Char} (h : ∀ c ∈ digits, c.isDigit = true) :
    spanDigits (encodeChars digits) = (digits.map fun c => c.toNat - 48, []) := by
  induction digits with
  | nil => rfl
  | cons c digits ih =>
      obtain ⟨byte, hbytes, hdigit, hvalue⟩ := utf8EncodeChar_digit (h c (by simp))
      have hrest := ih fun other hother => h other (List.mem_cons_of_mem c hother)
      obtain ⟨hvalues, hend⟩ := Prod.mk.inj hrest
      rw [encodeChars_cons, hbytes, spanDigits, List.singleton_append,
        List.takeWhile_cons_of_pos hdigit, List.dropWhile_cons_of_pos hdigit, List.map_cons, hvalue,
        hvalues, hend, List.map_cons]

theorem isDigit_of_mem_encodeChars {digits : List Char} (h : ∀ c ∈ digits, c.isDigit = true)
    {byte : UInt8} (hbyte : byte ∈ encodeChars digits) : isDigit byte = true := by
  obtain ⟨c, hc, hbyte⟩ := List.mem_flatMap.mp hbyte
  obtain ⟨digit, hbytes, hdigit, -⟩ := utf8EncodeChar_digit (h c hc)
  obtain rfl : byte = digit := by simpa [hbytes] using hbyte
  exact hdigit

theorem isDigit_toDigits (n : Nat) : ∀ c ∈ Nat.toDigits 10 n, c.isDigit = true :=
  fun _ hc => Nat.isDigit_of_mem_toDigits (by decide) (by decide) hc

theorem encodeChars_toDigits_ne_nil {n : Nat} : encodeChars (Nat.toDigits 10 n) ≠ [] := by
  intro h
  obtain ⟨c, digits, hsplit⟩ :=
    List.exists_cons_of_ne_nil (Nat.toDigits_ne_nil : Nat.toDigits 10 n ≠ [])
  obtain ⟨byte, hbyte, -⟩ := utf8EncodeChar_digit (isDigit_toDigits n c (by simp [hsplit]))
  rw [hsplit, encodeChars_cons, hbyte] at h
  cases h

/-- Bytes with another one among them than digits, such as a literal or a sign, are no number. -/
theorem encodeChars_toDigits_ne {n : Nat} {word : Bytes}
    (h : ∃ byte ∈ word, isDigit byte = false) : encodeChars (Nat.toDigits 10 n) ≠ word := by
  rintro rfl
  obtain ⟨byte, hbyte, hdigit⟩ := h
  rw [isDigit_of_mem_encodeChars (isDigit_toDigits n) hbyte] at hdigit
  cases hdigit

/-- Zero is the only number whose digits begin with a zero. -/
theorem head?_toDigits {n : Nat} (h : n ≠ 0) : (Nat.toDigits 10 n).head? ≠ some '0' := by
  induction n using Nat.strongRecOn with
  | ind n ih =>
      by_cases hsmall : n < 10
      · rw [Nat.toDigits_of_lt_base hsmall, List.head?_cons]
        exact fun hzero => h (Nat.digitChar_eq_zero.mp (Option.some.inj hzero))
      · have hquotient := ih (n / 10) (by omega) (by omega)
        rw [Nat.toDigits_of_base_le (by decide) (by omega), List.head?_append]
        rwa [Option.or_of_isSome]
        rw [List.isSome_head?]
        exact Nat.toDigits_ne_nil

/-- The digits of a number are a numeral without sign, point and exponent. -/
theorem ofWord?_toDigits (n : Nat) :
    Numeral.ofWord? (encodeChars (Nat.toDigits 10 n)) = some (.ofNat n) := by
  have hsign : ((encodeChars (Nat.toDigits 10 n)).head? == some '-'.toUInt8) = false := by
    rw [beq_eq_false_iff_ne]
    intro h
    obtain ⟨rest, hrest⟩ := List.head?_eq_some_iff.mp h
    exact encodeChars_toDigits_ne ⟨_, List.mem_cons_self, by decide⟩ hrest
  have hleading : ¬ (((Nat.toDigits 10 n).map fun c => c.toNat - 48).head? = some 0 ∧
      ((Nat.toDigits 10 n).map fun c => c.toNat - 48) ≠ [0]) := by
    rintro ⟨hhead, hne⟩
    by_cases hn : n = 0
    · rw [hn, Nat.toDigits_zero] at hne
      exact hne rfl
    · rw [List.head?_map, Option.map_eq_some_iff] at hhead
      obtain ⟨c, hc, hvalue⟩ := hhead
      obtain ⟨hlow, -⟩ := Char.isDigit_iff_toNat.mp (isDigit_toDigits n c (List.mem_of_head? hc))
      have hzero : c.toNat = '0'.toNat := Nat.le_antisymm (Nat.le_of_sub_eq_zero hvalue) hlow
      rw [Char.toNat_inj.mp hzero] at hc
      exact head?_toDigits hn hc
  have hwhole : ((Nat.toDigits 10 n).map fun c => c.toNat - 48) ≠ [] :=
    List.map_eq_nil_iff.not.mpr Nat.toDigits_ne_nil
  rw [Numeral.ofWord?, hsign]
  simp only [Bool.false_eq_true, if_false, spanDigits_encodeChars (isDigit_toDigits n)]
  rw [if_neg (not_or.mpr ⟨hwhole, hleading⟩)]
  rfl

theorem lexes_toDigits (n : Nat) : Lexes (Nat.toDigits 10 n) [.number (.ofNat n)] := by
  refine lexes_word encodeChars_toDigits_ne_nil ?_ ?_
  · intro byte hbyte
    rw [isWordByte, isDigit_of_mem_encodeChars (isDigit_toDigits n) hbyte]
    rfl
  · rw [wordToken?, if_neg (encodeChars_toDigits_ne (by decide +kernel)),
      if_neg (encodeChars_toDigits_ne (by decide +kernel)),
      if_neg (encodeChars_toDigits_ne (by decide +kernel)), ofWord?_toDigits]
    rfl

theorem takeDigits_append {limit value value' : Nat} {digits : List Nat}
    (h : takeDigits limit value digits = (value', [])) (rest : List Nat) :
    takeDigits limit value (digits ++ rest) = takeDigits limit value' rest := by
  induction digits generalizing value with
  | nil => rw [← (Prod.mk.inj h).1, List.nil_append]
  | cons d digits ih =>
      rw [takeDigits] at h
      rw [List.cons_append, takeDigits]
      split_ifs at h ⊢ with hlimit
      · exact ih h
      · cases (Prod.mk.inj h).2

/-- The digits of a number below the limit are read as the number. -/
theorem takeDigits_toDigits {limit n : Nat} (h : n < limit) :
    takeDigits limit 0 ((Nat.toDigits 10 n).map fun c => c.toNat - 48) = (n, []) := by
  induction n using Nat.strongRecOn with
  | ind n ih =>
      by_cases hsmall : n < 10
      · rw [Nat.toDigits_of_lt_base hsmall, List.map_singleton,
          Nat.toNat_digitChar_sub_48_of_lt_ten hsmall, takeDigits, if_pos (by omega), takeDigits]
        simp
      · have hquotient := ih (n / 10) (by omega) (by omega)
        have hn : 10 * (n / 10) + n % 10 = n := Nat.div_add_mod n 10
        rw [Nat.toDigits_of_base_le (by decide) (by omega), List.map_append,
          takeDigits_append hquotient, List.map_singleton,
          Nat.toNat_digitChar_sub_48_of_lt_ten (by omega), takeDigits, hn, if_pos h, takeDigits]

theorem below?_ofNat {limit n : Nat} (h : n < limit) : (Numeral.ofNat n).below? limit = some n := by
  simp [Numeral.below?, Numeral.ofNat, takeDigits_toDigits h]

end TypedSql.Json
