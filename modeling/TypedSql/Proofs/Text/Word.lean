import Mathlib.Data.List.Chain
import TypedSql.Proofs.Text.Occurrence

/-!
Words in a text. A pattern stands delimited in a text if no word runs into it from the left, and
neither a word nor a dot follows it at once on the right. Where a text is split after a word, the
word is determined by where it begins.
-/

namespace TypedSql.Text

def isWordChar (c : Char) : Bool :=
  c.isAlphanum || c == '_'

def IsWord (text : List Char) : Prop :=
  text ≠ [] ∧ ∀ c ∈ text, isWordChar c = true

instance (text : List Char) : Decidable (IsWord text) :=
  decidable_of_iff (text ≠ [] ∧ text.all isWordChar = true) (by
    rw [IsWord, List.all_eq_true])

/-- No word is still open at the end of the text. -/
def ClosedLeft (before : List Char) : Prop :=
  ∀ c ∈ before.getLast?, isWordChar c = false

/-- The text goes on with neither a word character nor a dot. -/
def ClosedRight (after : List Char) : Prop :=
  ∀ c ∈ after.head?, isWordChar c = false ∧ c ≠ '.'

instance (before : List Char) : Decidable (ClosedLeft before) :=
  decidable_of_iff (before.getLast?.all fun c => !isWordChar c) (by
    simp [ClosedLeft, Option.all_eq_true])

instance (after : List Char) : Decidable (ClosedRight after) :=
  decidable_of_iff (after.head?.all fun c => !isWordChar c && c != '.') (by
    simp [ClosedRight, Option.all_eq_true])

/-- Wherever the pattern stands in the text, it stands between closed ends. -/
def Delimited (pattern text : List Char) : Prop :=
  ∀ before after, before ++ (pattern ++ after) = text → ClosedLeft before ∧ ClosedRight after

/-- Only finitely many places are to be checked. -/
theorem delimited_iff {pattern text : List Char} :
    Delimited pattern text ↔ ∀ i ∈ positions pattern text,
      ClosedLeft (text.take i) ∧ ClosedRight (text.drop (i + pattern.length)) := by
  constructor
  · intro h i hi
    obtain ⟨before, after, rfl, rfl⟩ := mem_positions.mp hi
    simpa [← List.drop_drop] using h before after rfl
  · rintro h before after rfl
    have hplace := h before.length mem_positions_append
    simpa [← List.drop_drop] using hplace

instance (pattern text : List Char) : Decidable (Delimited pattern text) :=
  decidable_of_iff _ delimited_iff.symm

theorem ClosedLeft.of_append {first second : List Char} (h : ClosedLeft (first ++ second)) :
    ClosedLeft second := by
  intro c hc
  apply h
  rw [List.getLast?_append]
  simp [Option.mem_def.mp hc]

/-- A text that ends in a closed word has more than the word, or nothing of it. -/
theorem ClosedLeft.eq_nil_of_word {before word : List Char}
    (hword : ∀ c ∈ word, isWordChar c = true) (h : ClosedLeft (before ++ word)) : word = [] := by
  cases hlast : word.getLast? with
  | none => exact List.getLast?_eq_none_iff.mp hlast
  | some c =>
      have hclosed := h.of_append c hlast
      rw [hword c (List.mem_of_getLast? hlast)] at hclosed
      cases hclosed

/-- A text splits in one way into a word and a rest that does not continue it. -/
theorem word_unique {word word' rest rest' : List Char} (hword : ∀ c ∈ word, isWordChar c = true)
    (hword' : ∀ c ∈ word', isWordChar c = true) (hrest : ∀ c ∈ rest.head?, isWordChar c = false)
    (hrest' : ∀ c ∈ rest'.head?, isWordChar c = false) (h : word ++ rest = word' ++ rest') :
    word = word' ∧ rest = rest' := by
  have hstop {text : List Char} (htext : ∀ c ∈ text.head?, isWordChar c = false) :
      text.takeWhile isWordChar = [] := by
    cases text with
    | nil => rfl
    | cons c text => simp [htext c rfl]
  have htake := congrArg (List.takeWhile isWordChar) h
  rw [List.takeWhile_append_of_pos hword, List.takeWhile_append_of_pos hword', hstop hrest,
    hstop hrest', List.append_nil, List.append_nil] at htake
  subst htake
  exact ⟨rfl, List.append_cancel_left h⟩

/-- What follows a closed end does not matter, if the text goes on with a word character after a
piece that stays. -/
theorem ClosedRight.replace {between old after : List Char}
    (h : ClosedRight (between ++ (old ++ after))) (hne : old ≠ [])
    (hhead : ∀ c ∈ old.head?, isWordChar c = true) (rest : List Char) :
    ClosedRight (between ++ rest) := by
  cases between with
  | nil =>
      obtain ⟨first, hfirst⟩ := Option.ne_none_iff_exists'.mp (mt List.head?_eq_none_iff.mp hne)
      have hclosed := (h first (by simp [hfirst])).1
      rw [hhead first hfirst] at hclosed
      cases hclosed
  | cons c between => exact h

/-- What comes before a closed end does not matter, if a word character comes before a piece that
stays. -/
theorem ClosedLeft.replace {before old between : List Char}
    (h : ClosedLeft (before ++ (old ++ between))) (hne : old ≠ [])
    (hlast : ∀ c ∈ old.getLast?, isWordChar c = true) (front : List Char) :
    ClosedLeft (front ++ between) := by
  cases hbetween : between.getLast? with
  | none =>
      obtain ⟨last, hend⟩ := Option.ne_none_iff_exists'.mp (mt List.getLast?_eq_none_iff.mp hne)
      rw [List.getLast?_eq_none_iff] at hbetween
      have hclosed := h last (by simp [hbetween, hend])
      rw [hlast last hend] at hclosed
      cases hclosed
  | some c =>
      have hclosed := h c (by simp [hbetween])
      intro c' hc'
      rw [List.getLast?_append, hbetween] at hc'
      obtain rfl : c = c' := by simpa using hc'
      exact hclosed

/-- A pattern stays delimited when a piece that begins and ends with word characters gives way to
another one that the pattern is apart from. -/
theorem Delimited.replace {pattern before old new after : List Char}
    (h : Delimited pattern (before ++ (old ++ after))) (hnew : Apart pattern before new after)
    (hne : old ≠ []) (hhead : ∀ c ∈ old.head?, isWordChar c = true)
    (hlast : ∀ c ∈ old.getLast?, isWordChar c = true) :
    Delimited pattern (before ++ (new ++ after)) := by
  intro left right heq
  rcases hnew left right heq with hlength | hlength
  · have hsplit : (left ++ pattern) ++ right = before ++ (new ++ after) := by simpa using heq
    obtain ⟨between, rfl, rfl⟩ := exists_between hsplit (by simpa using hlength)
    obtain ⟨hleft, hright⟩ := h left (between ++ (old ++ after)) (by simp)
    exact ⟨hleft, hright.replace hne hhead _⟩
  · have hsplit : (before ++ new) ++ after = left ++ (pattern ++ right) := by
      simpa using heq.symm
    obtain ⟨between, rfl, rfl⟩ := exists_between hsplit (by simpa using hlength)
    obtain ⟨hleft, hright⟩ := h (before ++ (old ++ between)) right (by simp)
    exact ⟨hleft.replace hne hlast _, hright⟩

end TypedSql.Text
