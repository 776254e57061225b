import TypedSql.Proofs.Text.Occurrence

/-!
Several replacements in one text. Each pattern is replaced where it first stands. They may be made
in turn, so that each search sees the replacements before it, or at once, so that all searches see
the text as it was. The two agree if no replacement touches a place where a later pattern stands.
-/

namespace TypedSql.Text

/-- At a position of a text, characters that give way to others. -/
structure Edit (α : Type) where
  start : Nat
  width : Nat
  text : List α
deriving DecidableEq

variable {α : Type}

namespace Edit

def Covers (edit : Edit α) (i : Nat) : Prop :=
  edit.start ≤ i ∧ i < edit.start + edit.width

instance (edit : Edit α) (i : Nat) : Decidable (edit.Covers i) :=
  inferInstanceAs (Decidable (_ ∧ _))

/-- The position that a position outside the edit has after it. -/
def move (edit : Edit α) (i : Nat) : Nat :=
  if i < edit.start then i else i - edit.width + edit.text.length

def moved (edit second : Edit α) : Edit α :=
  { second with start := edit.move second.start }

def Disjoint (first second : Edit α) : Prop :=
  ∀ i, first.Covers i → ¬ second.Covers i

/-- The second edit lies before the first one or after it. -/
def Separate (first second : Edit α) : Prop :=
  0 < second.width ∧
    (second.start + second.width ≤ first.start ∨ first.start + first.width ≤ second.start)

end Edit

/-- What the character at a position becomes. The first character that an edit covers becomes its
text, the others that it covers become nothing, and every other character stays. -/
def written (edits : List (Edit α)) (i : Nat) (c : α) : List α :=
  match edits with
  | [] => [c]
  | edit :: rest =>
    if edit.Covers i then (if i = edit.start then edit.text else []) else written rest i c

def rewriteFrom (edits : List (Edit α)) (i : Nat) : List α → List α
  | [] => []
  | c :: text => written edits i c ++ rewriteFrom edits (i + 1) text

def rewrite (edits : List (Edit α)) (text : List α) : List α :=
  rewriteFrom edits 0 text

section Rewrite

variable {edits edits' : List (Edit α)}

theorem written_eq_self {i : Nat} (h : ∀ edit ∈ edits, ¬ edit.Covers i) (c : α) :
    written edits i c = [c] := by
  induction edits with
  | nil => rfl
  | cons edit rest ih =>
      rw [written, if_neg (h edit (by simp))]
      exact ih fun later hlater => h later (by simp [hlater])

theorem rewriteFrom_append (edits : List (Edit α)) (i : Nat) (first second : List α) :
    rewriteFrom edits i (first ++ second) =
      rewriteFrom edits i first ++ rewriteFrom edits (i + first.length) second := by
  induction first generalizing i with
  | nil => rfl
  | cons c first ih =>
      have hlength : i + 1 + first.length = i + (c :: first).length := by
        simp only [List.length_cons]
        omega
      rw [List.cons_append, rewriteFrom, rewriteFrom, ih, hlength, List.append_assoc]

theorem rewriteFrom_congr {i j : Nat} {text : List α}
    (h : ∀ k < text.length, ∀ c, written edits (i + k) c = written edits' (j + k) c) :
    rewriteFrom edits i text = rewriteFrom edits' j text := by
  induction text generalizing i j with
  | nil => rfl
  | cons c text ih =>
      have hhead : written edits i c = written edits' j c := h 0 (by simp) c
      have htail : rewriteFrom edits (i + 1) text = rewriteFrom edits' (j + 1) text := by
        apply ih
        intro k hk c
        have hnext := h (k + 1) (by simpa using hk) c
        rwa [← Nat.add_assoc, ← Nat.add_assoc, Nat.add_right_comm, Nat.add_right_comm j] at hnext
      rw [rewriteFrom, rewriteFrom, hhead, htail]

@[simp] theorem rewriteFrom_nil (i : Nat) (text : List α) : rewriteFrom [] i text = text := by
  induction text generalizing i with
  | nil => rfl
  | cons c text ih => rw [rewriteFrom, ih, written, List.singleton_append]

@[simp] theorem rewrite_nil (text : List α) : rewrite [] text = text :=
  rewriteFrom_nil 0 text

theorem rewriteFrom_eq_self {i : Nat} {text : List α}
    (h : ∀ k < text.length, ∀ edit ∈ edits, ¬ edit.Covers (i + k)) :
    rewriteFrom edits i text = text := by
  have hsame : rewriteFrom edits i text = rewriteFrom [] i text := by
    apply rewriteFrom_congr
    intro k hk c
    exact written_eq_self (h k hk) c
  rw [hsame, rewriteFrom_nil]

theorem rewriteFrom_eq_nil {i : Nat} {text : List α}
    (h : ∀ k < text.length, ∀ c, written edits (i + k) c = []) :
    rewriteFrom edits i text = [] := by
  induction text generalizing i with
  | nil => rfl
  | cons c text ih =>
      have hhead : written edits i c = [] := h 0 (by simp) c
      have htail : rewriteFrom edits (i + 1) text = [] := by
        apply ih
        intro k hk c
        have hnext := h (k + 1) (by simpa using hk) c
        rwa [← Nat.add_assoc, Nat.add_right_comm] at hnext
      rw [rewriteFrom, hhead, htail, List.append_nil]

theorem rewriteFrom_covered {edit : Edit α} {old : List α} (hold : old ≠ [])
    (hwidth : edit.width = old.length) :
    rewriteFrom (edit :: edits) edit.start old = edit.text := by
  cases old with
  | nil => exact absurd rfl hold
  | cons c old =>
      rw [List.length_cons] at hwidth
      have hrest : rewriteFrom (edit :: edits) (edit.start + 1) old = [] := by
        apply rewriteFrom_eq_nil
        intro k hk c
        rw [written, if_pos ⟨by omega, by omega⟩, if_neg (by omega)]
      rw [rewriteFrom, hrest, written, if_pos ⟨Nat.le_refl _, by omega⟩, if_pos rfl,
        List.append_nil]

theorem Edit.move_of_lt {edit : Edit α} {i : Nat} (h : i < edit.start) : edit.move i = i :=
  if_pos h

theorem Edit.move_of_le (edit : Edit α) (k : Nat) :
    edit.move (edit.start + edit.width + k) = edit.start + edit.text.length + k := by
  rw [Edit.move, if_neg (by omega)]
  omega

/-- Outside an edit, a separate one covers the moved positions of what it covered. -/
theorem Edit.Separate.moved_iff {edit later : Edit α} (h : edit.Separate later) {i : Nat}
    (hi : i < edit.start ∨ edit.start + edit.width ≤ i) :
    ((edit.moved later).Covers (edit.move i) ↔ later.Covers i) ∧
      (edit.move i = (edit.moved later).start ↔ i = later.start) := by
  obtain ⟨hwidth, hplace⟩ := h
  simp only [Edit.Covers, Edit.moved, Edit.move]
  split <;> split <;> omega

theorem Edit.Separate.disjoint {first second : Edit α} (h : first.Separate second) :
    first.Disjoint second := by
  intro i hfirst hsecond
  simp only [Edit.Separate, Edit.Covers] at h hfirst hsecond
  omega

theorem written_moved {edit : Edit α} (hseparate : ∀ later ∈ edits, edit.Separate later) {i : Nat}
    (hi : i < edit.start ∨ edit.start + edit.width ≤ i) (c : α) :
    written (edit :: edits) i c = written (edits.map edit.moved) (edit.move i) c := by
  rw [written, if_neg (by simp only [Edit.Covers]; omega)]
  induction edits with
  | nil => rfl
  | cons later rest ih =>
      obtain ⟨hcovers, hstart⟩ := (hseparate later (by simp)).moved_iff hi
      have hrest := ih fun next hnext => hseparate next (by simp [hnext])
      simp only [List.map_cons, written, hcovers, hstart, hrest]
      rfl

theorem rewrite_before {edit : Edit α} {before : List α} (hlength : before.length ≤ edit.start)
    (hseparate : ∀ later ∈ edits, edit.Separate later) :
    rewrite (edit :: edits) before = rewrite (edits.map edit.moved) before := by
  apply rewriteFrom_congr
  intro k hk c
  rw [Nat.zero_add, written_moved hseparate (Or.inl (by omega)), Edit.move_of_lt (by omega)]

/-- The first of several separate edits can be made before the others, which then stand where it
has moved them. -/
theorem rewrite_cons {edit : Edit α} {before old after : List α} (hold : old ≠ [])
    (hstart : edit.start = before.length) (hwidth : edit.width = old.length)
    (hseparate : ∀ later ∈ edits, edit.Separate later) :
    rewrite (edit :: edits) (before ++ (old ++ after)) =
      rewrite (edits.map edit.moved) (before ++ (edit.text ++ after)) := by
  have hbefore : rewriteFrom (edit :: edits) 0 before =
      rewriteFrom (edits.map edit.moved) 0 before :=
    rewrite_before (by omega) hseparate
  have hmiddle : rewriteFrom (edit :: edits) before.length old =
      rewriteFrom (edits.map edit.moved) before.length edit.text := by
    rw [← hstart, rewriteFrom_covered hold hwidth, rewriteFrom_eq_self]
    intro k hk moved hmoved
    obtain ⟨later, hlater, rfl⟩ := List.mem_map.mp hmoved
    obtain ⟨hpos, hplace⟩ := hseparate later hlater
    simp only [Edit.Covers, Edit.moved, Edit.move]
    split <;> omega
  have hafter : rewriteFrom (edit :: edits) (before.length + old.length) after =
      rewriteFrom (edits.map edit.moved) (before.length + edit.text.length) after := by
    apply rewriteFrom_congr
    intro k hk c
    rw [← hstart, ← hwidth, written_moved hseparate (Or.inr (by omega)), Edit.move_of_le]
  simp only [rewrite, rewriteFrom_append, Nat.zero_add]
  rw [hbefore, hmiddle, hafter]

/-- What is before a position outside the first edit becomes the same, too. -/
theorem rewrite_take {edit : Edit α} {before old after : List α} (hold : old ≠ [])
    (hstart : edit.start = before.length) (hwidth : edit.width = old.length)
    (hseparate : ∀ later ∈ edits, edit.Separate later) {i : Nat}
    (hi : i < edit.start ∨ edit.start + edit.width ≤ i) :
    rewrite (edit :: edits) ((before ++ (old ++ after)).take i) =
      rewrite (edits.map edit.moved) ((before ++ (edit.text ++ after)).take (edit.move i)) := by
  rcases hi with hi | hi
  · rw [Edit.move_of_lt hi, List.take_append_of_le_length (by omega),
      List.take_append_of_le_length (by omega)]
    apply rewrite_before _ hseparate
    rw [List.length_take]
    omega
  · obtain ⟨k, rfl⟩ := Nat.exists_eq_add_of_le hi
    rw [Edit.move_of_le, hstart, hwidth, Nat.add_assoc, Nat.add_assoc, List.take_length_add_append,
      List.take_length_add_append, List.take_length_add_append, List.take_length_add_append]
    exact rewrite_cons hold hstart hwidth hseparate

/-- The order of edits that cover different characters does not matter. -/
theorem rewrite_perm (hperm : edits.Perm edits')
    (hdisjoint : ∀ first ∈ edits, ∀ second ∈ edits, first ≠ second → first.Disjoint second)
    (text : List α) :
    rewrite edits text = rewrite edits' text := by
  apply rewriteFrom_congr
  intro k _ c
  simp only [Nat.zero_add]
  induction hperm with
  | nil => rfl
  | cons edit hperm ih =>
      rw [written, written, ih]
      intro first hfirst second hsecond
      exact hdisjoint first (by simp [hfirst]) second (by simp [hsecond])
  | swap first second rest =>
      have hboth : first ≠ second → first.Covers k → ¬ second.Covers k :=
        fun hne => hdisjoint first (by simp) second (by simp) hne k
      simp only [written]
      by_cases hsame : first = second
      · rw [hsame]
      · by_cases hfirst : first.Covers k
        · rw [if_neg (hboth hsame hfirst), if_pos hfirst, if_pos hfirst]
        · rw [if_neg hfirst, if_neg hfirst]
  | trans hfirst hsecond ih ih' =>
      rw [ih hdisjoint, ih']
      intro first hfirst' second hsecond'
      exact hdisjoint first (hfirst.mem_iff.mpr hfirst') second (hfirst.mem_iff.mpr hsecond')

end Rewrite

end TypedSql.Text
