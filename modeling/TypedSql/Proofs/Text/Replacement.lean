import TypedSql.Proofs.Text.Edit

/-!
Several patterns of one text, each replaced where it first stands. They may be replaced in turn, so
that every search sees the replacements before it, or at once, so that all searches see the text as
it was. The two agree if no replacement touches a place where a later pattern stands.
-/

namespace TypedSql.Text

variable {α : Type} [DecidableEq α]

def editAt (pair : List α × List α) (i : Nat) : Edit α :=
  ⟨i, pair.1.length, pair.2⟩

def edit? (text : List α) (pair : List α × List α) : Option (Edit α) :=
  (positions pair.1 text).head?.map (editAt pair)

/-- The text with every pattern replaced where it first stands in the text as it was. -/
def replaceAtOnce (pairs : List (List α × List α)) (text : List α) : List α :=
  rewrite (pairs.filterMap (edit? text)) text

/-- The text with one pattern after the other replaced, unless one of them is missing. -/
def replaceInTurn? (pairs : List (List α × List α)) (text : List α) : Option (List α) :=
  pairs.foldlM (fun text pair => replaceFirst? pair.1 pair.2 text) text

/-- At each step, every later pattern is apart from what is replaced and from what replaces it. -/
def Independent : List (List α × List α) → List α → Prop
  | [], _ => True
  | pair :: rest, text => ∀ before after, cut? pair.1 text = some (before, after) →
      (∀ later ∈ rest, Apart later.1 before pair.1 after ∧ Apart later.1 before pair.2 after) ∧
        Independent rest (before ++ (pair.2 ++ after))

theorem edit?_of_cut? {pair : List α × List α} {text before after : List α}
    (h : cut? pair.1 text = some (before, after)) :
    edit? text pair = some (editAt pair before.length) := by
  rw [edit?, head?_positions_of_cut? h, Option.map_some]

section Step

variable {pair later : List α × List α} {rest : List (List α × List α)} {before after : List α}

/-- A replacement moves the places of a pattern that is apart from it. -/
theorem positions_replace {pattern : List α} (hpattern : pattern ≠ [])
    (hold : Apart pattern before pair.1 after) (hnew : Apart pattern before pair.2 after) :
    positions pattern (before ++ (pair.2 ++ after)) =
      (positions pattern (before ++ (pair.1 ++ after))).map (editAt pair before.length).move := by
  have hfirst : (positions pattern before).map (editAt pair before.length).move =
      positions pattern before := by
    conv_rhs => rw [← List.map_id (positions pattern before)]
    apply List.map_congr_left
    intro i hi
    exact Edit.move_of_lt (lt_of_mem_positions hpattern hi)
  have hsecond : ∀ i, (editAt pair before.length).move (before.length + pair.1.length + i) =
      before.length + pair.2.length + i := fun i => (editAt pair before.length).move_of_le i
  rw [positions_of_apart hpattern hold, positions_of_apart hpattern hnew, List.map_append,
    List.map_map, hfirst]
  congr 1
  apply List.map_congr_left
  intro i _
  exact (hsecond i).symm

theorem edit?_replace (hlater : later.1 ≠ []) (hold : Apart later.1 before pair.1 after)
    (hnew : Apart later.1 before pair.2 after) :
    edit? (before ++ (pair.2 ++ after)) later =
      (edit? (before ++ (pair.1 ++ after)) later).map (editAt pair before.length).moved := by
  rw [edit?, edit?, positions_replace hlater hold hnew, List.head?_map, Option.map_map,
    Option.map_map]
  rfl

/-- The edit of a later pattern is separate from a replacement that it is apart from. -/
theorem separate_of_apart {edit : Edit α} (hlater : later.1 ≠ [])
    (hold : Apart later.1 before pair.1 after)
    (hedit : edit? (before ++ (pair.1 ++ after)) later = some edit) :
    (editAt pair before.length).Separate edit := by
  obtain ⟨i, hi, rfl⟩ := Option.map_eq_some_iff.mp hedit
  obtain ⟨left, right, heq, rfl⟩ := mem_positions.mp (List.mem_of_mem_head? hi)
  exact ⟨List.length_pos_iff.mpr hlater, hold left right heq⟩

theorem filterMap_edit?_replace (hpatterns : ∀ later ∈ rest, later.1 ≠ [])
    (hapart : ∀ later ∈ rest, Apart later.1 before pair.1 after ∧
      Apart later.1 before pair.2 after) :
    rest.filterMap (edit? (before ++ (pair.2 ++ after))) =
      (rest.filterMap (edit? (before ++ (pair.1 ++ after)))).map
        (editAt pair before.length).moved := by
  rw [List.map_filterMap]
  apply List.filterMap_congr
  intro later hlater
  obtain ⟨hold, hnew⟩ := hapart later hlater
  exact edit?_replace (hpatterns later hlater) hold hnew

theorem separate_of_mem (hpatterns : ∀ later ∈ rest, later.1 ≠ [])
    (hapart : ∀ later ∈ rest, Apart later.1 before pair.1 after ∧
      Apart later.1 before pair.2 after) :
    ∀ edit ∈ rest.filterMap (edit? (before ++ (pair.1 ++ after))),
      (editAt pair before.length).Separate edit := by
  intro edit hedit
  obtain ⟨later, hlater, hedit⟩ := List.mem_filterMap.mp hedit
  exact separate_of_apart (hpatterns later hlater) (hapart later hlater).1 hedit

/-- Replacing all patterns at once begins with replacing the first of them. -/
theorem replaceAtOnce_cons {text : List α} (hpatterns : ∀ p ∈ pair :: rest, p.1 ≠ [])
    (hcut : cut? pair.1 text = some (before, after))
    (hapart : ∀ later ∈ rest, Apart later.1 before pair.1 after ∧
      Apart later.1 before pair.2 after) :
    replaceAtOnce (pair :: rest) text = replaceAtOnce rest (before ++ (pair.2 ++ after)) := by
  have htext : before ++ (pair.1 ++ after) = text := cut?_append hcut
  have hrest : ∀ later ∈ rest, later.1 ≠ [] :=
    fun later hlater => hpatterns later (by simp [hlater])
  have hhead : (pair :: rest).filterMap (edit? text) =
      editAt pair before.length :: rest.filterMap (edit? text) := by
    rw [List.filterMap_cons, edit?_of_cut? hcut]
  rw [replaceAtOnce, replaceAtOnce, hhead, filterMap_edit?_replace hrest hapart, ← htext]
  exact rewrite_cons (hpatterns pair (by simp)) rfl rfl (separate_of_mem hrest hapart)

end Step

/-- Patterns that do not overlap where they stand in a text are replaced at disjoint places. -/
theorem disjoint_edits {pairs : List (List α × List α)} {text : List α}
    (hpatterns : ∀ pair ∈ pairs, pair.1 ≠ [])
    (hapart : pairs.Pairwise fun first second => ∀ before after,
      before ++ (first.1 ++ after) = text → Apart second.1 before first.1 after) :
    (pairs.filterMap (edit? text)).Pairwise Edit.Disjoint := by
  rw [List.pairwise_filterMap]
  refine hapart.imp_of_mem ?_
  intro first second _ hsecond hseparate edit hedit edit' hedit'
  obtain ⟨start, hstart, rfl⟩ := Option.map_eq_some_iff.mp hedit
  obtain ⟨before, after, rfl, rfl⟩ := mem_positions.mp (List.mem_of_mem_head? hstart)
  exact (separate_of_apart (hpatterns second hsecond) (hseparate before after rfl) hedit').disjoint

/-- Independent patterns give the same text in turn as at once. -/
theorem replaceInTurn?_eq {pairs : List (List α × List α)} {text : List α}
    (hpatterns : ∀ pair ∈ pairs, pair.1 ≠ []) (h : Independent pairs text) :
    replaceInTurn? pairs text =
      if ∀ pair ∈ pairs, positions pair.1 text ≠ [] then some (replaceAtOnce pairs text)
      else none := by
  induction pairs generalizing text with
  | nil => simp [replaceInTurn?, replaceAtOnce]
  | cons pair rest ih =>
      cases hcut : cut? pair.1 text with
      | none =>
          have hmissing : positions pair.1 text = [] := cut?_eq_none_iff.mp hcut
          simp [replaceInTurn?, replaceFirst?, hcut, hmissing]
      | some parts =>
          obtain ⟨before, after⟩ := parts
          obtain ⟨hapart, hrest⟩ := h before after hcut
          have htext : before ++ (pair.1 ++ after) = text := cut?_append hcut
          have hfound : positions pair.1 text ≠ [] := by
            intro hmissing
            rw [cut?_eq_none_iff.mpr hmissing] at hcut
            cases hcut
          have hlater : ∀ later ∈ rest,
              (positions later.1 (before ++ (pair.2 ++ after)) ≠ [] ↔
                positions later.1 text ≠ []) := by
            intro later hlater
            obtain ⟨hold, hnew⟩ := hapart later hlater
            rw [positions_replace (hpatterns later (by simp [hlater])) hold hnew, htext]
            simp
          have hstep : replaceInTurn? (pair :: rest) text =
              replaceInTurn? rest (before ++ (pair.2 ++ after)) := by
            simp [replaceInTurn?, replaceFirst?, hcut]
          rw [hstep, ih (fun later hmem => hpatterns later (by simp [hmem])) hrest,
            replaceAtOnce_cons hpatterns hcut hapart]
          simp only [List.forall_mem_cons, hfound, ne_eq, not_false_eq_true, true_and]
          congr 1
          exact propext (forall₂_congr hlater)

/-- Where a pattern stands after independent replacements: it stands where it stood, with the text
before it rewritten. So they neither create nor destroy a place of it. -/
theorem positions_replaceInTurn? {done : List (List α × List α)} {later : List α × List α}
    {text text' : List α} (hpatterns : ∀ pair ∈ done ++ [later], pair.1 ≠ [])
    (h : Independent (done ++ [later]) text) (hrun : replaceInTurn? done text = some text') :
    positions later.1 text' = (positions later.1 text).map fun i =>
      (rewrite (done.filterMap (edit? text)) (text.take i)).length := by
  induction done generalizing text with
  | nil =>
      obtain rfl : text = text' := Option.some.inj hrun
      conv_lhs => rw [← List.map_id (positions later.1 text)]
      apply List.map_congr_left
      intro i hi
      have hlt := lt_of_mem_positions (hpatterns later (by simp)) hi
      simp [Nat.le_of_lt hlt]
  | cons pair done ih =>
      obtain ⟨middle, hstep, hrun⟩ := Option.bind_eq_some_iff.mp hrun
      obtain ⟨⟨before, after⟩, hcut, rfl⟩ := Option.map_eq_some_iff.mp hstep
      obtain ⟨hapart, hrest⟩ := h before after hcut
      have htext : before ++ (pair.1 ++ after) = text := cut?_append hcut
      have hlater : later.1 ≠ [] := hpatterns later (by simp)
      have hdone : ∀ p ∈ done, p.1 ≠ [] := fun p hp => hpatterns p (by simp [hp])
      have hapart' : ∀ p ∈ done, Apart p.1 before pair.1 after ∧ Apart p.1 before pair.2 after :=
        fun p hp => hapart p (by simp [hp])
      obtain ⟨hold, hnew⟩ := hapart later (by simp)
      have hhead : (pair :: done).filterMap (edit? text) =
          editAt pair before.length :: done.filterMap (edit? text) := by
        rw [List.filterMap_cons, edit?_of_cut? hcut]
      -- The first replacement moves the places; the others are made in what it leaves.
      rw [ih (fun p hp => hpatterns p (by simp at hp ⊢; tauto)) hrest hrun,
        positions_replace hlater hold hnew, List.map_map, hhead,
        filterMap_edit?_replace hdone hapart', htext]
      apply List.map_congr_left
      intro i hi
      obtain ⟨left, right, heq, rfl⟩ := mem_positions.mp hi
      have hwhere := hold left right (heq.trans htext.symm)
      have hlength := List.length_pos_iff.mpr hlater
      -- Where a place goes depends on the edits before it only.
      rw [← htext, rewrite_take (hpatterns pair (by simp)) rfl rfl (separate_of_mem hdone hapart')]
      · rfl
      · rcases hwhere with hend | hbegin
        · left
          change left.length < before.length
          omega
        · exact Or.inr hbegin

end TypedSql.Text
