/-!
The first place where a pattern stands in a list, and the replacement of the pattern there.

`cut?` splits a text around the first occurrence of the pattern: the two parts, with the pattern
between them, make up the text.
-/

namespace TypedSql.Text

variable {α : Type} [DecidableEq α]

/-- What follows a pattern that stands at the front of a text. -/
def after? : (pattern text : List α) → Option (List α)
  | [], text => some text
  | _ :: _, [] => none
  | p :: pattern, c :: text => if p = c then after? pattern text else none

/-- Searches `text`, which follows the characters `before` in reverse. -/
def cutFrom? (pattern : List α) (before : List α) : List α → Option (List α × List α)
  | [] => (after? pattern []).map fun after => (before.reverse, after)
  | c :: text =>
    match after? pattern (c :: text) with
    | some after => some (before.reverse, after)
    | none => cutFrom? pattern (c :: before) text

/-- What stands before and after the first occurrence of the pattern. -/
def cut? (pattern text : List α) : Option (List α × List α) :=
  cutFrom? pattern [] text

def replaceFirst? (pattern replacement text : List α) : Option (List α) :=
  (cut? pattern text).map fun (before, after) => before ++ (replacement ++ after)

theorem after?_append (pattern text : List α) : after? pattern (pattern ++ text) = some text := by
  induction pattern with
  | nil => rfl
  | cons p pattern ih => simp [after?, ih]

theorem append_of_after? {pattern text after : List α} (h : after? pattern text = some after) :
    pattern ++ after = text := by
  induction pattern generalizing text with
  | nil =>
      simp only [after?, Option.some.injEq] at h
      simp [h]
  | cons p pattern ih =>
      cases text with
      | nil => simp [after?] at h
      | cons c text =>
          rw [after?] at h
          split at h
          · next same => simp [same, ih h]
          · simp at h

theorem cutFrom?_append {pattern before text left right : List α}
    (h : cutFrom? pattern before text = some (left, right)) :
    left ++ (pattern ++ right) = before.reverse ++ text := by
  induction text generalizing before with
  | nil =>
      simp only [cutFrom?, Option.map_eq_some_iff, Prod.mk.injEq] at h
      obtain ⟨after, found, rfl, rfl⟩ := h
      rw [append_of_after? found]
  | cons c text ih =>
      rw [cutFrom?] at h
      split at h
      · next after found =>
          simp only [Option.some.injEq, Prod.mk.injEq] at h
          obtain ⟨rfl, rfl⟩ := h
          rw [append_of_after? found]
      · simpa using ih h

/-- The parts of a cut, with the pattern between them, are the text. -/
theorem cut?_append {pattern text before after : List α}
    (h : cut? pattern text = some (before, after)) : before ++ (pattern ++ after) = text := by
  simpa [cut?] using cutFrom?_append h

example : replaceFirst? "b".toList "xy".toList "abcb".toList = some "axycb".toList := by decide

end TypedSql.Text
