import Mathlib.Algebra.Group.Nat.Defs
import Mathlib.Data.List.Basic
import TypedSql.Text.CaseMap

/-!
Case forms of characters. No case form brings in an underscore, and the first character of a capital
form is its own capital form. The second is a fact about the whole table: no form of a run, and no
first character of an expansion, is itself a member of a run or has an expansion. The table has some
thousand members, so they are not compared in pairs: each side is one number with a bit for every
member, and the two numbers have no bit in common.
-/

namespace TypedSql.Text

section BitSets

def bitSet : List Nat → Nat
  | [] => 0
  | n :: rest => 2 ^ n ||| bitSet rest

theorem testBit_bitSet {members : List Nat} {n : Nat} :
    (bitSet members).testBit n = true ↔ n ∈ members := by
  induction members with
  | nil => simp [bitSet]
  | cons m rest ih =>
      rw [bitSet, Nat.testBit_or, Bool.or_eq_true, ih, Nat.testBit_two_pow, decide_eq_true_eq,
        List.mem_cons, eq_comm]

/-- Lists whose bits do not meet have no common member. -/
theorem notMem_of_bitSet {first second : List Nat} {n : Nat}
    (h : bitSet first &&& bitSet second = 0)
    (hfirst : n ∈ first) : n ∉ second := by
  intro hsecond
  have hboth : (bitSet first &&& bitSet second).testBit n = true := by
    rw [Nat.testBit_and, testBit_bitSet.mpr hfirst, testBit_bitSet.mpr hsecond]
    rfl
  rw [h, Nat.zero_testBit] at hboth
  cases hboth

end BitSets

namespace CaseRun

def offsets (run : CaseRun) : List Nat :=
  (List.range ((run.last - run.first) / run.stride + 1)).map (run.stride * ·)

def members (run : CaseRun) : List Nat :=
  run.offsets.map (run.first + ·)

def forms (run : CaseRun) : List Nat :=
  run.offsets.map (run.target + ·)

/-- A member lies at some distance from the first, and its form at the same distance from the
target. -/
theorem form?_eq_some {run : CaseRun} {n m : Nat} (h : run.form? n = some m) :
    n ∈ run.members ∧ m ∈ run.forms := by
  rw [form?] at h
  split at h
  · next hmember =>
      obtain ⟨hfirst, hlast, hstride⟩ := hmember
      obtain ⟨i, hi⟩ := Nat.dvd_of_mod_eq_zero hstride
      have hoffset : n - run.first ∈ run.offsets := by
        refine List.mem_map.mpr ⟨(n - run.first) / run.stride, List.mem_range.mpr ?_, ?_⟩
        · exact Nat.lt_succ_of_le (Nat.div_le_div_right (Nat.sub_le_sub_right hlast _))
        · exact Nat.mul_div_cancel' ⟨i, hi⟩
      refine ⟨List.mem_map.mpr ⟨_, hoffset, Nat.add_sub_cancel' hfirst⟩, ?_⟩
      exact List.mem_map.mpr ⟨_, hoffset, Option.some.inj h⟩
  · cases h

end CaseRun

section Forms

variable {expansions : List (Nat × List Nat)} {runs : List CaseRun} {n m : Nat}

def caseMembers (expansions : List (Nat × List Nat)) (runs : List CaseRun) : List Nat :=
  expansions.map Prod.fst ++ runs.flatMap CaseRun.members

def caseHeads (expansions : List (Nat × List Nat)) (runs : List CaseRun) : List Nat :=
  expansions.map (fun entry => entry.2.headD 0) ++ runs.flatMap CaseRun.forms

theorem caseForm_eq_self (h : n ∉ caseMembers expansions runs) :
    caseForm expansions runs n = [n] := by
  obtain ⟨hexpansions, hruns⟩ := not_or.mp (mt List.mem_append.mpr h)
  have hlookup : expansions.lookup n = none := by
    rw [List.lookup_eq_none_iff]
    intro entry hentry
    rw [bne_iff_ne]
    rintro rfl
    exact hexpansions (List.mem_map_of_mem hentry)
  have hform : runs.findSome? (CaseRun.form? n) = none := by
    rw [List.findSome?_eq_none_iff]
    intro run hrun
    rw [Option.eq_none_iff_forall_ne_some]
    intro m hm
    exact hruns (List.mem_flatMap.mpr ⟨run, hrun, (CaseRun.form?_eq_some hm).1⟩)
  rw [caseForm, hlookup, hform]
  rfl

/-- A form is the character itself, an expansion of the table, or one form of a run. -/
theorem caseForm_cases (expansions : List (Nat × List Nat)) (runs : List CaseRun) (n : Nat) :
    caseForm expansions runs n = [n] ∨
    (n, caseForm expansions runs n) ∈ expansions ∨
    ∃ run ∈ runs, ∃ m ∈ run.forms, caseForm expansions runs n = [m] := by
  rw [caseForm]
  cases hlookup : expansions.lookup n with
  | some form =>
      obtain ⟨before, after, hsplit, -⟩ := List.lookup_eq_some_iff.mp hlookup
      exact Or.inr (Or.inl (by simp [hsplit]))
  | none =>
      cases hform : runs.findSome? (CaseRun.form? n) with
      | none => exact Or.inl rfl
      | some m =>
          obtain ⟨run, hrun, hm⟩ := List.exists_of_findSome?_eq_some hform
          exact Or.inr (Or.inr ⟨run, hrun, m, (CaseRun.form?_eq_some hm).2, rfl⟩)

theorem head_caseForm (hexpansions : ∀ entry ∈ expansions, entry.2 ≠ []) (runs : List CaseRun)
    (n : Nat) : caseForm expansions runs n = [n] ∨
      ∃ m rest, caseForm expansions runs n = m :: rest ∧ m ∈ caseHeads expansions runs := by
  rcases caseForm_cases expansions runs n with hself | hentry | ⟨run, hrun, m, hm, hform⟩
  · exact Or.inl hself
  · right
    have hne := hexpansions _ hentry
    refine ⟨_, _, (List.cons_head_tail hne).symm, List.mem_append_left _ ?_⟩
    refine List.mem_map.mpr ⟨_, hentry, ?_⟩
    exact List.headD_eq_head?_getD.trans (by rw [List.head?_eq_some_head hne]; rfl)
  · exact Or.inr ⟨m, [], hform, List.mem_append_right _ (List.mem_flatMap.mpr ⟨run, hrun, hm⟩)⟩

theorem toNat_ofNat_of_isValidChar (h : n.isValidChar) : (Char.ofNat n).toNat = n := by
  rw [Char.ofNat, dif_pos h]
  rfl

theorem toNat_ofNat_cases (n : Nat) : (Char.ofNat n).toNat = n ∨ (Char.ofNat n).toNat = 0 := by
  by_cases h : n.isValidChar
  · exact Or.inl (toNat_ofNat_of_isValidChar h)
  · right
    rw [Char.ofNat, dif_neg h]
    rfl

theorem ofNat_ne_underscore (h : n ≠ 95) : Char.ofNat n ≠ '_' := by
  intro hc
  have hcode : (Char.ofNat n).toNat = 95 := congrArg Char.toNat hc
  rcases toNat_ofNat_cases n with hself | hzero
  · exact h (hself.symm.trans hcode)
  · rw [hzero] at hcode
    cases hcode

theorem underscore_notMem_caseForm (hexpansions : ∀ entry ∈ expansions, 95 ∉ entry.2)
    (hruns : ∀ run ∈ runs, 95 ∉ run.forms) (hn : n ≠ 95) :
    '_' ∉ (caseForm expansions runs n).map Char.ofNat := by
  intro hmem
  obtain ⟨m, hm, hunderscore⟩ := List.mem_map.mp hmem
  have hcode : m = 95 := not_not.mp fun h => ofNat_ne_underscore h hunderscore
  rw [hcode] at hm
  rcases caseForm_cases expansions runs n with hself | hentry | ⟨run, hrun, form, hform, hself⟩
  · rw [hself] at hm
    exact hn (List.mem_singleton.mp hm).symm
  · exact hexpansions _ hentry hm
  · rw [hself, List.mem_singleton] at hm
    rw [← hm] at hform
    exact hruns run hrun hform

end Forms

section Table

/-- No character with which a capital form begins is changed by the table. -/
theorem disjoint_upperHeads : bitSet (caseHeads upperExpansions upperRuns) &&&
    bitSet (caseMembers upperExpansions upperRuns) = 0 := by decide +kernel

/-- Nor is it a small letter of ASCII. -/
theorem upperHeads_bounds : ∀ m ∈ caseHeads upperExpansions upperRuns,
    m.isValidChar ∧ (m < 97 ∨ 122 < m) := by decide +kernel

theorem ne_nil_of_mem_upperExpansions : ∀ entry ∈ upperExpansions, entry.2 ≠ [] := by
  decide

theorem underscore_notMem_upper : (∀ entry ∈ upperExpansions, 95 ∉ entry.2) ∧
    ∀ run ∈ upperRuns, 95 ∉ run.forms := by decide +kernel

theorem underscore_notMem_lower : (∀ entry ∈ lowerExpansions, 95 ∉ entry.2) ∧
    ∀ run ∈ lowerRuns, 95 ∉ run.forms := by decide +kernel

end Table

section Characters

variable {c : Char}

theorem toNat_ne_underscore (h : c ≠ '_') : c.toNat ≠ 95 := by
  intro hcode
  rw [← Char.ofNat_toNat c, hcode] at h
  exact h rfl

/-- What holds of the first 128 characters holds of those of ASCII. -/
@[elab_as_elim]
theorem ascii_forall {P : Char → Prop} (c : Char) (hc : c.toNat < 128)
    (h : ∀ n < 128, P (Char.ofNat n)) : P c := by
  rw [← Char.ofNat_toNat c]
  exact h c.toNat hc

/-- Both cases of a character of ASCII are of ASCII, and only an underscore becomes one. The case
that is taken last counts, and no small form is a capital letter. -/
theorem letterCase_ascii (h : c.toNat < 128) :
    (c.toUpper.toNat < 128 ∧ c.toLower.toNat < 128) ∧
    (c ≠ '_' → c.toUpper ≠ '_' ∧ c.toLower ≠ '_') ∧
    (c.toUpper.toUpper = c.toUpper ∧ c.toUpper.toLower = c.toLower ∧
      c.toLower.toUpper = c.toUpper) ∧
    c.toLower.isUpper = false :=
  ascii_forall c h (by decide +kernel)

theorem toNat_toUpper_lt (h : c.toNat < 128) : c.toUpper.toNat < 128 :=
  (letterCase_ascii h).1.1

theorem toNat_toLower_lt (h : c.toNat < 128) : c.toLower.toNat < 128 :=
  (letterCase_ascii h).1.2

theorem letterCase_ne_underscore (h : c.toNat < 128) :
    c ≠ '_' → c.toUpper ≠ '_' ∧ c.toLower ≠ '_' :=
  (letterCase_ascii h).2.1

theorem isUpper_toLower_ascii (h : c.toNat < 128) : c.toLower.isUpper = false :=
  (letterCase_ascii h).2.2.2

theorem underscore_notMem_capitals (h : c ≠ '_') : '_' ∉ capitals c := by
  by_cases hascii : c.toNat < 128
  · rw [capitals_ascii hascii, List.mem_singleton]
    exact (letterCase_ne_underscore hascii h).1.symm
  · rw [capitals, if_neg hascii]
    exact underscore_notMem_caseForm underscore_notMem_upper.1 underscore_notMem_upper.2
      (toNat_ne_underscore h)

theorem underscore_notMem_smalls (h : c ≠ '_') : '_' ∉ smalls c := by
  by_cases hascii : c.toNat < 128
  · rw [smalls_ascii hascii, List.mem_singleton]
    exact (letterCase_ne_underscore hascii h).2.symm
  · rw [smalls, if_neg hascii]
    exact underscore_notMem_caseForm underscore_notMem_lower.1 underscore_notMem_lower.2
      (toNat_ne_underscore h)

/-- A character with which a capital form begins is a capital form by itself. -/
theorem capitals_ofNat {m : Nat} (h : m ∈ caseHeads upperExpansions upperRuns) :
    capitals (Char.ofNat m) = [Char.ofNat m] := by
  obtain ⟨hvalid, hletter⟩ := upperHeads_bounds m h
  have hcode := toNat_ofNat_of_isValidChar hvalid
  rw [capitals, hcode]
  split
  · congr 1
    refine dif_neg fun hlower => ?_
    have hfirst : 97 ≤ (Char.ofNat m).toNat := UInt32.le_iff_toNat_le.mp hlower.1
    have hlast : (Char.ofNat m).toNat ≤ 122 := UInt32.le_iff_toNat_le.mp hlower.2
    omega
  · rw [caseForm_eq_self (notMem_of_bitSet disjoint_upperHeads h)]
    rfl

/-- The capital form of a character begins with a character that is its own capital form. -/
theorem capitals_eq_cons (c : Char) : ∃ d rest, capitals c = d :: rest ∧ capitals d = [d] := by
  by_cases hascii : c.toNat < 128
  · obtain ⟨-, -, ⟨hupper, -⟩, -⟩ := letterCase_ascii hascii
    refine ⟨c.toUpper, [], capitals_ascii hascii, ?_⟩
    rw [capitals_ascii (toNat_toUpper_lt hascii), hupper]
  · have hform : capitals c = (caseForm upperExpansions upperRuns c.toNat).map Char.ofNat := by
      rw [capitals, if_neg hascii]
    rcases head_caseForm ne_nil_of_mem_upperExpansions upperRuns c.toNat with
      hself | ⟨m, rest, hhead, hmem⟩
    · have hc : capitals c = [c] := by
        rw [hform, hself, List.map_singleton, Char.ofNat_toNat]
      exact ⟨c, [], hc, hc⟩
    · refine ⟨Char.ofNat m, rest.map Char.ofNat, ?_, capitals_ofNat hmem⟩
      rw [hform, hhead, List.map_cons]

/-- In ASCII, the small form of the capital form has the same capital form. -/
theorem smalls_toUpper (h : c.toNat < 128) : smalls c.toUpper = [c.toLower] := by
  obtain ⟨-, -, ⟨-, hlower, -⟩, -⟩ := letterCase_ascii h
  rw [smalls_ascii (toNat_toUpper_lt h), hlower]

theorem capitals_toLower (h : c.toNat < 128) : capitals c.toLower = [c.toUpper] := by
  obtain ⟨-, -, ⟨-, -, hupper⟩, -⟩ := letterCase_ascii h
  rw [capitals_ascii (toNat_toLower_lt h), hupper]

end Characters

end TypedSql.Text
