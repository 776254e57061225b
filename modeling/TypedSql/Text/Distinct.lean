import Std.Data.TreeSet

/-!
Lists without repetition: the texts of a list in increasing order, each once, and the first
occurrences of a list in the order in which they stand. Texts are ordered by code point, which is
also the order of their bytes.
-/

namespace TypedSql.Text

def sortedDistinct (texts : List String) : List String :=
  (Std.TreeSet.ofList texts compare).toList

/-- The elements of a list that are not among those seen before them. -/
def firstOccurrences {α : Type} [BEq α] (seen : List α) : List α → List α
  | [] => []
  | x :: rest =>
    if seen.contains x then firstOccurrences seen rest
    else x :: firstOccurrences (x :: seen) rest

theorem mem_sortedDistinct {text : String} {texts : List String} :
    text ∈ sortedDistinct texts ↔ text ∈ texts := by
  rw [sortedDistinct, Std.TreeSet.mem_toList, Std.TreeSet.mem_ofList]
  simp

/-- The texts of the list are in strictly increasing order. -/
theorem pairwise_sortedDistinct (texts : List String) :
    (sortedDistinct texts).Pairwise (· < ·) := by
  have ordered := Std.TreeSet.ordered_toList (t := Std.TreeSet.ofList texts compare)
  refine ordered.imp fun {a b} h => ?_
  change compareOfLessAndEq a b = .lt at h
  unfold compareOfLessAndEq at h
  split at h
  · assumption
  · split at h <;> simp at h

theorem mem_firstOccurrences {α : Type} [BEq α] [LawfulBEq α] {x : α} {seen list : List α} :
    x ∈ firstOccurrences seen list ↔ x ∈ list ∧ x ∉ seen := by
  induction list generalizing seen with
  | nil => simp [firstOccurrences]
  | cons y rest ih =>
      rw [firstOccurrences]
      by_cases hy : seen.contains y
      · rw [if_pos hy, ih]
        have hy' : y ∈ seen := List.contains_iff_mem.mp hy
        constructor
        · rintro ⟨hx, hs⟩
          exact ⟨List.mem_cons_of_mem _ hx, hs⟩
        · rintro ⟨hx, hs⟩
          rcases List.mem_cons.mp hx with rfl | hx
          · exact absurd hy' hs
          · exact ⟨hx, hs⟩
      · rw [if_neg hy, List.mem_cons, ih]
        have hy' : y ∉ seen := fun h => hy (List.contains_iff_mem.mpr h)
        by_cases hxy : x = y
        · subst hxy
          simp [hy']
        · simp [hxy]

theorem nodup_firstOccurrences {α : Type} [BEq α] [LawfulBEq α] (seen list : List α) :
    (firstOccurrences seen list).Nodup := by
  induction list generalizing seen with
  | nil => exact List.nodup_nil
  | cons x rest ih =>
      rw [firstOccurrences]
      split
      · exact ih seen
      · refine List.nodup_cons.mpr ⟨?_, ih _⟩
        intro hx
        exact (mem_firstOccurrences.mp hx).2 (by simp)

example : sortedDistinct ["b", "a", "b"] = ["a", "b"] := by decide +kernel
example : firstOccurrences [] ["b", "a", "b"] = ["b", "a"] := by decide

end TypedSql.Text
