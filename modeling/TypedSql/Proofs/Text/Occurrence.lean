import Mathlib.Data.List.Sort
import TypedSql.Text.Search

/-!
All places where a pattern stands in a text. The search of `TypedSql.Text.Search` finds the first
of them. A pattern is apart from a piece of a text if it never stands across the ends of the piece
or inside it; then its places are those before the piece and those after it.
-/

namespace TypedSql.Text

variable {α : Type} [DecidableEq α]

def positions (pattern text : List α) : List Nat :=
  (List.range (text.length + 1)).filter fun i => (after? pattern (text.drop i)).isSome

theorem after?_isSome_iff {pattern text : List α} :
    (after? pattern text).isSome = true ↔ ∃ after, pattern ++ after = text := by
  constructor
  · intro h
    obtain ⟨after, hafter⟩ := Option.isSome_iff_exists.mp h
    exact ⟨after, append_of_after? hafter⟩
  · rintro ⟨after, rfl⟩
    simp [after?_append]

theorem mem_positions {pattern text : List α} {i : Nat} :
    i ∈ positions pattern text ↔
      ∃ before after, before ++ (pattern ++ after) = text ∧ before.length = i := by
  simp only [positions, List.mem_filter, List.mem_range, after?_isSome_iff]
  constructor
  · rintro ⟨hi, after, hafter⟩
    refine ⟨text.take i, after, ?_, ?_⟩
    · rw [hafter, List.take_append_drop]
    · rw [List.length_take]
      omega
  · rintro ⟨before, after, rfl, rfl⟩
    refine ⟨?_, after, ?_⟩
    · simp only [List.length_append]
      omega
    · rw [List.drop_left]

theorem mem_positions_append {pattern before after : List α} :
    before.length ∈ positions pattern (before ++ (pattern ++ after)) :=
  mem_positions.mpr ⟨before, after, rfl, rfl⟩

theorem pairwise_positions (pattern text : List α) :
    (positions pattern text).Pairwise (· < ·) :=
  List.pairwise_lt_range.filter _

theorem lt_of_mem_positions {pattern text : List α} {i : Nat} (hpattern : pattern ≠ [])
    (h : i ∈ positions pattern text) : i < text.length := by
  obtain ⟨before, after, rfl, rfl⟩ := mem_positions.mp h
  have hlength := List.length_pos_iff.mpr hpattern
  simp only [List.length_append]
  omega

theorem positions_nil (pattern : List α) :
    positions pattern [] = if (after? pattern []).isSome then [0] else [] := by
  simp [positions, List.filter_cons]

theorem positions_cons (pattern : List α) (c : α) (text : List α) :
    positions pattern (c :: text) =
      (if (after? pattern (c :: text)).isSome then [0] else []) ++
        (positions pattern text).map (· + 1) := by
  rw [positions, List.length_cons, List.range_succ_eq_map, List.filter_cons, List.drop_zero,
    List.filter_map]
  have htail : ((List.range (text.length + 1)).filter
      ((fun i => (after? pattern ((c :: text).drop i)).isSome) ∘ Nat.succ)).map Nat.succ =
        (positions pattern text).map (· + 1) := rfl
  rw [htail]
  split <;> rfl

/-- The search finds the first position. -/
theorem cutFrom?_eq (pattern before text : List α) :
    cutFrom? pattern before text =
      (positions pattern text).head?.map fun i =>
        (before.reverse ++ text.take i, text.drop (i + pattern.length)) := by
  induction text generalizing before with
  | nil =>
      rw [cutFrom?, positions_nil]
      cases hafter : after? pattern [] with
      | none => simp
      | some after =>
          have happend := append_of_after? hafter
          simp_all
  | cons c text ih =>
      rw [cutFrom?, positions_cons]
      cases hafter : after? pattern (c :: text) with
      | none =>
          simp only [ih, Option.isSome_none, Bool.false_eq_true, if_false, List.nil_append,
            List.head?_map, Option.map_map]
          congr 1
          funext i
          simp [Nat.add_right_comm]
      | some after =>
          have happend := append_of_after? hafter
          simp [← happend]

theorem cut?_eq (pattern text : List α) :
    cut? pattern text =
      (positions pattern text).head?.map fun i =>
        (text.take i, text.drop (i + pattern.length)) := by
  simpa [cut?] using cutFrom?_eq pattern [] text

theorem head?_positions_of_cut? {pattern text before after : List α}
    (h : cut? pattern text = some (before, after)) :
    (positions pattern text).head? = some before.length := by
  rw [cut?_eq, Option.map_eq_some_iff] at h
  obtain ⟨i, hi, heq⟩ := h
  have hle := List.mem_range.mp (List.mem_of_mem_filter (List.mem_of_mem_head? hi))
  obtain ⟨rfl, -⟩ := Prod.mk.inj heq
  rw [hi, List.length_take, Nat.min_eq_left (by omega)]

theorem cut?_eq_none_iff {pattern text : List α} :
    cut? pattern text = none ↔ positions pattern text = [] := by
  simp [cut?_eq]

/-- The text is cut where no place of the pattern comes before. -/
theorem cut?_eq_some_iff {pattern text before after : List α} :
    cut? pattern text = some (before, after) ↔ before ++ (pattern ++ after) = text ∧
      ∀ left right, left ++ (pattern ++ right) = text → before.length ≤ left.length := by
  have hfirst {before after : List α} (h : cut? pattern text = some (before, after)) :
      ∀ left right, left ++ (pattern ++ right) = text → before.length ≤ left.length := by
    rintro left right rfl
    have hhead := head?_positions_of_cut? h
    have hmem : left.length ∈ positions pattern (left ++ (pattern ++ right)) := mem_positions_append
    have hsorted := pairwise_positions pattern (left ++ (pattern ++ right))
    obtain ⟨later, hlater⟩ := List.head?_eq_some_iff.mp hhead
    rw [hlater] at hmem hsorted
    rcases List.mem_cons.mp hmem with hsame | hmem
    · exact hsame.ge
    · exact Nat.le_of_lt (List.rel_of_pairwise_cons hsorted hmem)
  constructor
  · intro h
    exact ⟨cut?_append h, hfirst h⟩
  · rintro ⟨rfl, hbefore⟩
    cases hcut : cut? pattern (before ++ (pattern ++ after)) with
    | none =>
        have hmem : before.length ∈ positions pattern (before ++ (pattern ++ after)) :=
          mem_positions_append
        rw [cut?_eq_none_iff.mp hcut] at hmem
        cases hmem
    | some parts =>
        obtain ⟨left, right⟩ := parts
        have htext := cut?_append hcut
        have hlength := Nat.le_antisymm (hfirst hcut before after rfl) (hbefore left right htext)
        obtain ⟨rfl, hrest⟩ := List.append_inj htext hlength
        rw [List.append_cancel_left hrest]

/-- Wherever the pattern stands in the text, it stands outside the middle of it. -/
def Apart (pattern before middle after : List α) : Prop :=
  ∀ left right, left ++ (pattern ++ right) = before ++ (middle ++ after) →
    left.length + pattern.length ≤ before.length ∨ before.length + middle.length ≤ left.length

omit [DecidableEq α] in
/-- Two splittings of one text, the first of which comes no later than the second. -/
theorem exists_between {first rest second rest' : List α} (h : first ++ rest = second ++ rest')
    (hlength : first.length ≤ second.length) :
    ∃ between, second = first ++ between ∧ rest = between ++ rest' := by
  rcases List.append_eq_append_iff.mp h with hbetween | ⟨between, rfl, rfl⟩
  · exact hbetween
  · rw [List.length_append] at hlength
    have hnil : between = [] := List.eq_nil_of_length_eq_zero (by omega)
    exact ⟨[], by simp [hnil], by simp [hnil]⟩

/-- Where the pattern first stands does not depend on the text that comes after it. -/
theorem cut?_front {pattern front rest left right : List α}
    (h : cut? pattern (front ++ rest) = some (left, right))
    (hend : left.length + pattern.length ≤ front.length) :
    ∃ between, right = between ++ rest ∧
      ∀ rest', cut? pattern (front ++ rest') = some (left, between ++ rest') := by
  obtain ⟨heq, hfirst⟩ := cut?_eq_some_iff.mp h
  have hsplit : (left ++ pattern) ++ right = front ++ rest := by simpa using heq
  obtain ⟨between, rfl, rfl⟩ := exists_between hsplit (by simpa using hend)
  refine ⟨between, rfl, fun rest' => cut?_eq_some_iff.mpr ⟨by simp, ?_⟩⟩
  intro left' right' heq'
  by_contra hearlier
  -- An earlier place would end within the front as well, so it would stand in the given text.
  have hsplit' : (left' ++ pattern) ++ right' = (left ++ pattern ++ between) ++ rest' := by
    simpa using heq'
  obtain ⟨between', hbetween', -⟩ := exists_between hsplit' (by simp; omega)
  exact hearlier (hfirst left' (between' ++ rest) (by simp [hbetween']))

omit [DecidableEq α] in
theorem Apart.of_append {pattern before first gap second after : List α} (hpattern : pattern ≠ [])
    (h : Apart pattern before (first ++ (gap ++ second)) after) :
    Apart pattern gap second after := by
  have hlength := List.length_pos_iff.mpr hpattern
  intro left right heq
  have hwhere := h (before ++ (first ++ left)) right (by simp [heq])
  simp only [List.length_append] at hwhere
  omega

omit [DecidableEq α] in
/-- A pattern that is apart from the middle of a text and from a piece inserted there stays so, if
it is also apart from what comes after the piece. -/
theorem Apart.insert {pattern before first inserted gap second second' after : List α}
    (hpattern : pattern ≠ []) (hgap : ∀ c ∈ pattern.head?, c ∉ gap)
    (hold : Apart pattern before (first ++ (gap ++ second)) after)
    (hinserted : Apart pattern (before ++ first) inserted (gap ++ (second' ++ after)))
    (hrest : Apart pattern gap second' after) :
    Apart pattern before (first ++ (inserted ++ (gap ++ second'))) after := by
  have hlength := List.length_pos_iff.mpr hpattern
  intro left right heq
  rcases hinserted left right (by simpa using heq) with hend | hbegin
  · left
    have hsplit : (left ++ pattern) ++ right =
        (before ++ first) ++ (inserted ++ (gap ++ (second' ++ after))) := by simpa using heq
    obtain ⟨between, hbetween, -⟩ := exists_between hsplit (by simpa using hend)
    have hwhere := hold left (between ++ (gap ++ (second ++ after))) (by
      rw [List.append_assoc] at hbetween
      simp [hbetween, ← List.append_assoc])
    simp only [List.length_append] at hend hwhere
    omega
  · right
    have hsplit : ((before ++ first) ++ inserted) ++ (gap ++ (second' ++ after)) =
        left ++ (pattern ++ right) := by simpa using heq.symm
    have hbegin' : ((before ++ first) ++ inserted).length ≤ left.length := by
      rw [List.length_append]
      exact hbegin
    obtain ⟨between, rfl, hbetween⟩ := exists_between hsplit hbegin'
    rcases hrest between right hbetween.symm with hend | hbegin
    · obtain ⟨c, tail, rfl⟩ := List.exists_cons_of_ne_nil hpattern
      have hsplit' : (between ++ (c :: tail)) ++ right = gap ++ (second' ++ after) := by
        simpa using hbetween.symm
      obtain ⟨more, rfl, -⟩ := exists_between hsplit' (by simpa using hend)
      exact absurd (by simp) (hgap c rfl)
    · simp only [List.length_append]
      omega

/-- A pattern that is apart from the middle stands where it stands before it or after it. -/
theorem positions_of_apart {pattern before middle after : List α} (hpattern : pattern ≠ [])
    (h : Apart pattern before middle after) :
    positions pattern (before ++ (middle ++ after)) =
      positions pattern before ++
        (positions pattern after).map (before.length + middle.length + ·) := by
  refine (pairwise_positions _ _).eq_of_mem_iff ?_ ?_
  · refine List.pairwise_append.mpr ⟨pairwise_positions _ _, ?_, ?_⟩
    · exact (pairwise_positions pattern after).map _ fun i j hij => by omega
    · intro i hi j hj
      have hlt := lt_of_mem_positions hpattern hi
      obtain ⟨k, -, rfl⟩ := List.mem_map.mp hj
      omega
  · intro i
    rw [List.mem_append, List.mem_map]
    constructor
    · intro hi
      obtain ⟨left, right, heq, rfl⟩ := mem_positions.mp hi
      rcases h left right heq with hbefore | hafter
      · left
        have hsplit : (left ++ pattern) ++ right = before ++ (middle ++ after) := by
          simpa using heq
        obtain ⟨between, rfl, -⟩ := exists_between hsplit (by simpa using hbefore)
        exact mem_positions.mpr ⟨left, between, by simp, rfl⟩
      · right
        have hsplit : (before ++ middle) ++ after = left ++ (pattern ++ right) := by
          simpa using heq.symm
        obtain ⟨between, rfl, hright⟩ := exists_between hsplit (by simpa using hafter)
        exact ⟨between.length, mem_positions.mpr ⟨between, right, hright.symm, rfl⟩, by simp; omega⟩
    · rintro (hi | ⟨k, hk, rfl⟩)
      · obtain ⟨left, right, rfl, rfl⟩ := mem_positions.mp hi
        exact mem_positions.mpr ⟨left, right ++ (middle ++ after), by simp, rfl⟩
      · obtain ⟨left, right, rfl, rfl⟩ := mem_positions.mp hk
        exact mem_positions.mpr ⟨before ++ (middle ++ left), right, by simp, by simp; omega⟩

end TypedSql.Text
