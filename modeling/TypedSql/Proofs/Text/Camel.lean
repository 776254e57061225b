import Mathlib.Data.List.Basic
import TypedSql.Proofs.Text.CaseMap
import TypedSql.Text.Camel

/-!
The Pascal form and the camel form of a name.

A camel form never begins with a capital letter of ASCII. Characters outside ASCII have small forms
outside the capital letters too, though some of these are in ASCII, as the Kelvin sign becomes `k`.

Neither form has underscores, so each is one word when it is formed again. Its Pascal form is then
fixed by its first character: the Pascal form begins with a character that is its own capital, and
the camel form with a small letter whose capital is the character before, if that is in ASCII.
-/

namespace TypedSql.Text

theorem isUpper_ofNat {n : Nat} (h : 90 < n) : (Char.ofNat n).isUpper = false := by
  have hnat := toNat_ofNat_cases n
  refine decide_eq_false fun hupper => ?_
  have hfirst : 65 ≤ (Char.ofNat n).toNat := UInt32.le_iff_toNat_le.mp hupper.1
  have hlast : (Char.ofNat n).toNat ≤ 90 := UInt32.le_iff_toNat_le.mp hupper.2
  omega

/-- The small form of a character has a first character, and that is no capital letter of ASCII. -/
theorem smalls_eq_cons (c : Char) :
    ∃ first rest, smalls c = first :: rest ∧ first.isUpper = false := by
  have hexpansions : ∀ entry ∈ lowerExpansions, ∃ n rest, entry.2 = n :: rest ∧ 90 < n := by
    simp [lowerExpansions]
  have hruns : ∀ run ∈ lowerRuns, 90 < run.target := by decide +kernel
  by_cases hascii : c.toNat < 128
  · rw [smalls_ascii hascii]
    exact ⟨c.toLower, [], rfl, isUpper_toLower_ascii hascii⟩
  · rw [smalls, if_neg hascii, caseForm]
    cases hlookup : lowerExpansions.lookup c.toNat with
    | some form =>
        obtain ⟨before, after, hsplit, -⟩ := List.lookup_eq_some_iff.mp hlookup
        obtain ⟨n, rest, hform, hn⟩ := hexpansions (c.toNat, form) (by simp [hsplit])
        change form = _ at hform
        rw [hform]
        exact ⟨Char.ofNat n, rest.map Char.ofNat, rfl, isUpper_ofNat hn⟩
    | none =>
        refine ⟨_, [], rfl, isUpper_ofNat ?_⟩
        cases hrun : lowerRuns.findSome? (CaseRun.form? c.toNat) with
        | none =>
            rw [Option.getD_none]
            omega
        | some m =>
            obtain ⟨run, hmem, hform⟩ := List.exists_of_findSome?_eq_some hrun
            have htarget := hruns run hmem
            unfold CaseRun.form? at hform
            split at hform
            · have := Option.some.inj hform
              rw [Option.getD_some]
              omega
            · cases hform

theorem head_camelCase {name : String} {c : Char} (h : (camelCase name).toList.head? = some c) :
    c.isUpper = false := by
  rw [camelCase, String.toList_ofList] at h
  cases hname : pascalChars name.toList with
  | nil =>
      rw [hname] at h
      cases h
  | cons first rest =>
      obtain ⟨small, more, hsmalls, hsmall⟩ := smalls_eq_cons first
      rw [hname, uncapitalize, hsmalls] at h
      rw [← Option.some.inj h]
      exact hsmall

section Words

variable {name word : List Char} {c : Char}

theorem splitOn_underscore (rest : List Char) :
    ('_' :: rest).splitOn '_' = [] :: rest.splitOn '_' := by
  rw [List.splitOn, List.splitOnP_cons_eq_if_modifyHead, if_pos (beq_self_eq_true '_')]
  rfl

/-- Any other character goes to the first word. -/
theorem splitOn_cons (hc : c ≠ '_') (rest : List Char) :
    ∃ first others, rest.splitOn '_' = first :: others ∧
      (c :: rest).splitOn '_' = (c :: first) :: others := by
  obtain ⟨first, others, hwords⟩ :=
    List.exists_cons_of_ne_nil (List.splitOnP_ne_nil (· == '_') rest)
  refine ⟨first, others, hwords, ?_⟩
  rw [List.splitOn, List.splitOnP_cons_eq_if_modifyHead, if_neg (by simpa using hc), hwords,
    List.modifyHead_cons]

/-- The words of a name have no underscore. -/
theorem underscore_notMem_of_mem_splitOn (h : word ∈ name.splitOn '_') : '_' ∉ word := by
  induction name generalizing word with
  | nil =>
      obtain rfl := List.mem_singleton.mp h
      exact List.not_mem_nil
  | cons c rest ih =>
      by_cases hc : c = '_'
      · rw [hc, splitOn_underscore] at h
        rcases List.mem_cons.mp h with rfl | h
        · exact List.not_mem_nil
        · exact ih h
      · obtain ⟨first, others, hwords, hsplit⟩ := splitOn_cons hc rest
        rw [hwords, List.forall_mem_cons] at ih
        rw [hsplit] at h
        rcases List.mem_cons.mp h with rfl | h
        · rw [List.mem_cons, not_or]
          exact ⟨Ne.symm hc, ih.1⟩
        · exact ih.2 word h

theorem pascalChars_of_notMem (h : '_' ∉ word) : pascalChars word = capitalize word := by
  have hsplit : word.splitOn '_' = [word] := by
    refine List.splitOnP_eq_singleton fun c hc => ?_
    rw [beq_eq_false_iff_ne]
    rintro rfl
    exact h hc
  rw [pascalChars, hsplit, List.flatMap_singleton]

theorem pascalChars_underscore (rest : List Char) :
    pascalChars ('_' :: rest) = pascalChars rest := by
  rw [pascalChars, splitOn_underscore, List.flatMap_cons]
  rfl

theorem pascalChars_replicate_append (count : Nat) (rest : List Char) :
    pascalChars (List.replicate count '_' ++ rest) = pascalChars rest := by
  induction count with
  | zero => rfl
  | succ count ih => rw [List.replicate_succ, List.cons_append, pascalChars_underscore, ih]

/-- The Pascal form begins with the capital form of the first character of a word. -/
theorem pascalChars_cons (hc : c ≠ '_') (rest : List Char) :
    ∃ tail, pascalChars (c :: rest) = capitals c ++ tail := by
  obtain ⟨first, others, -, hsplit⟩ := splitOn_cons hc rest
  refine ⟨first ++ others.flatMap capitalize, ?_⟩
  rw [pascalChars, hsplit, List.flatMap_cons, capitalize, List.append_assoc]

theorem underscore_notMem_capitalize (h : '_' ∉ word) : '_' ∉ capitalize word := by
  cases word with
  | nil => exact List.not_mem_nil
  | cons c rest =>
      obtain ⟨hc, hrest⟩ := not_or.mp (mt List.mem_cons.mpr h)
      rw [capitalize, List.mem_append, not_or]
      exact ⟨underscore_notMem_capitals (Ne.symm hc), hrest⟩

theorem underscore_notMem_uncapitalize (h : '_' ∉ word) : '_' ∉ uncapitalize word := by
  cases word with
  | nil => exact List.not_mem_nil
  | cons c rest =>
      obtain ⟨hc, hrest⟩ := not_or.mp (mt List.mem_cons.mpr h)
      rw [uncapitalize, List.mem_append, not_or]
      exact ⟨underscore_notMem_smalls (Ne.symm hc), hrest⟩

theorem underscore_notMem_pascalChars (name : List Char) : '_' ∉ pascalChars name := by
  intro h
  obtain ⟨word, hword, hmem⟩ := List.mem_flatMap.mp h
  exact underscore_notMem_capitalize (underscore_notMem_of_mem_splitOn hword) hmem

/-- A word that begins with a capital form is capitalized. -/
theorem capitalize_capitals_append (c : Char) (tail : List Char) :
    capitalize (capitals c ++ tail) = capitals c ++ tail := by
  obtain ⟨d, rest, hcapitals, hfixed⟩ := capitals_eq_cons c
  rw [hcapitals, List.cons_append, capitalize, hfixed]
  rfl

theorem capitalize_pascalChars (name : List Char) :
    capitalize (pascalChars name) = pascalChars name := by
  induction name with
  | nil => rfl
  | cons c rest ih =>
      by_cases hc : c = '_'
      · rw [hc, pascalChars_underscore, ih]
      · obtain ⟨tail, htail⟩ := pascalChars_cons hc rest
        rw [htail, capitalize_capitals_append]

theorem pascalChars_pascalChars (name : List Char) :
    pascalChars (pascalChars name) = pascalChars name := by
  rw [pascalChars_of_notMem (underscore_notMem_pascalChars name), capitalize_pascalChars]

/-- A name of underscores, or a name whose first other character is in ASCII. -/
def BeginsInAscii (name : List Char) : Prop :=
  (∀ c ∈ name, c = '_') ∨
    ∃ count c rest, name = List.replicate count '_' ++ c :: rest ∧ c ≠ '_' ∧ c.toNat < 128

/-- In ASCII, the small form of a first character has the capital form that it came from. -/
theorem capitalize_uncapitalize_pascalChars (h : BeginsInAscii name) :
    capitalize (uncapitalize (pascalChars name)) = pascalChars name := by
  rcases h with hall | ⟨count, c, rest, rfl, hc, hascii⟩
  · have hname : name = List.replicate name.length '_' ++ [] := by
      rw [List.append_nil]
      exact List.eq_replicate_of_mem hall
    rw [hname, pascalChars_replicate_append]
    rfl
  · obtain ⟨tail, htail⟩ := pascalChars_cons hc rest
    rw [pascalChars_replicate_append, htail, capitals_ascii hascii, List.singleton_append,
      uncapitalize, smalls_toUpper hascii, List.singleton_append, capitalize,
      capitals_toLower hascii, List.singleton_append]

theorem pascalChars_uncapitalize_pascalChars (h : BeginsInAscii name) :
    pascalChars (uncapitalize (pascalChars name)) = pascalChars name := by
  rw [pascalChars_of_notMem (underscore_notMem_uncapitalize (underscore_notMem_pascalChars name)),
    capitalize_uncapitalize_pascalChars h]

end Words

/-- The laws of both forms, for names of any characters. Neither form has an underscore. The Pascal
form is its own Pascal form, and has the camel form of the name. The camel form is its own camel
form, and has the Pascal form of the name, if the first character of the name that is no underscore
is in ASCII, or there is none. -/
theorem camel_laws (name : String) :
    '_' ∉ (pascalCase name).toList ∧ '_' ∉ (camelCase name).toList ∧
    pascalCase (pascalCase name) = pascalCase name ∧
    camelCase (pascalCase name) = camelCase name ∧
    (BeginsInAscii name.toList → camelCase (camelCase name) = camelCase name ∧
      pascalCase (camelCase name) = pascalCase name) := by
  have hpascal := underscore_notMem_pascalChars name.toList
  refine ⟨?_, ?_, ?_, ?_, fun hbegins => ⟨?_, ?_⟩⟩
  · rw [pascalCase, String.toList_ofList]
    exact hpascal
  · rw [camelCase, String.toList_ofList]
    exact underscore_notMem_uncapitalize hpascal
  · rw [pascalCase, pascalCase, String.toList_ofList, pascalChars_pascalChars]
  · rw [camelCase, pascalCase, String.toList_ofList, pascalChars_pascalChars, camelCase]
  · rw [camelCase, camelCase, String.toList_ofList, pascalChars_uncapitalize_pascalChars hbegins]
  · rw [pascalCase, camelCase, String.toList_ofList, pascalChars_uncapitalize_pascalChars hbegins,
      pascalCase]

/-- Characters with several capitals stand at the beginning of words, after an ASCII letter. -/
theorem camel_laws_expandedWords :
    camelCase "__größe_ŉ_ﬁ" = "größeʼNFI" ∧ camelCase "größeʼNFI" = "größeʼNFI" ∧
      pascalCase "größeʼNFI" = pascalCase "__größe_ŉ_ﬁ" := by
  have hcamel : camelCase "__größe_ŉ_ﬁ" = "größeʼNFI" := by decide +kernel
  obtain ⟨-, -, -, -, hlaws⟩ := camel_laws "__größe_ŉ_ﬁ"
  have hbegins := hlaws (Or.inr ⟨2, 'g', "röße_ŉ_ﬁ".toList, by decide +kernel⟩)
  rw [hcamel] at hbegins
  exact ⟨hcamel, hbegins⟩

/-- The small form of the capital sharp s has another capital form, of two letters. -/
example : camelCase (camelCase "ẞ") ≠ camelCase "ẞ" := by decide +kernel

end TypedSql.Text
