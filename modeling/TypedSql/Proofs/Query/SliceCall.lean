import Mathlib.Data.List.Basic
import TypedSql.Proofs.Text.Replacement
import TypedSql.Query.SliceCall

/-!
Calls with list parameters. However many lists a query has and however long they are, the call puts
placeholders in the place of each marker that are bound to the elements of its list, and every other
parameter keeps its number and its value.

The text and the values change together. The text depends on the values only through their number,
so the numbers that each list gets are fixed in advance by `allocate`; the text is then a matter of
independent replacements, and the values one of looking up those numbers.
-/

namespace TypedSql.Slice

/-- A text between parentheses, with no others inside. -/
def Bracketed (text : List Char) : Prop :=
  ∃ body, text = '(' :: (body ++ [')']) ∧ '(' ∉ body ∧ ')' ∉ body

namespace Bracketed

variable {first second : List Char}

theorem eq_nil_of_split (h : Bracketed first) {front back : List Char}
    (heq : first = front ++ '(' :: back) : front = [] := by
  obtain ⟨body, rfl, hopen, -⟩ := h
  cases front with
  | nil => rfl
  | cons c front =>
      have hmem : '(' ∈ body ++ [')'] := by
        rw [(List.cons.inj heq).2]
        simp
      simp [hopen] at hmem

/-- Of two bracketed texts at the front of one text, each is the other. -/
theorem eq_of_append (hfirst : Bracketed first) (hsecond : Bracketed second)
    {rest rest' : List Char} (heq : first ++ rest = second ++ rest') : first = second := by
  obtain ⟨body, rfl, -, hclose⟩ := hfirst
  obtain ⟨body', rfl, -, hclose'⟩ := hsecond
  have hbodies : body ++ ')' :: rest = body' ++ ')' :: rest' := by simpa using heq
  rcases List.append_eq_append_iff.mp hbodies with ⟨more, rfl, hrest⟩ | ⟨more, rfl, hrest⟩
  · cases more with
    | nil => simp
    | cons c more =>
        obtain ⟨rfl, -⟩ := List.cons.inj hrest
        simp at hclose'
  · cases more with
    | nil => simp
    | cons c more =>
        obtain ⟨rfl, -⟩ := List.cons.inj hrest
        simp at hclose

theorem head (h : Bracketed first) : ∃ tail, first = '(' :: tail := by
  obtain ⟨body, rfl, -, -⟩ := h
  exact ⟨body ++ [')'], rfl⟩

/-- A bracketed text does not begin inside another one. -/
theorem length_le_of_later (hfirst : Bracketed first) (hsecond : Bracketed second)
    {between rest rest' : List Char} (hbetween : between ≠ [])
    (heq : first ++ rest = between ++ (second ++ rest')) : first.length ≤ between.length := by
  by_contra hlength
  obtain ⟨tail, htail⟩ := Text.exists_between heq.symm (by omega)
  obtain ⟨hsplit, hrest⟩ := htail
  obtain ⟨body, rfl⟩ := hsecond.head
  cases tail with
  | nil =>
      rw [List.append_nil] at hsplit
      exact hlength (by rw [hsplit])
  | cons c tail =>
      obtain ⟨rfl, -⟩ := List.cons.inj hrest
      exact hbetween (hfirst.eq_nil_of_split hsplit)

/-- Different bracketed texts do not overlap. -/
theorem apart (hfirst : Bracketed first) (hsecond : Bracketed second) (hne : first ≠ second)
    (before after : List Char) : Text.Apart first before second after := by
  intro left right heq
  rcases lt_trichotomy left.length before.length with hlt | hsame | hgt
  · obtain ⟨between, rfl, hrest⟩ := Text.exists_between heq (by omega)
    have hbetween : between ≠ [] := by
      rintro rfl
      simp at hlt
    have hlength := hfirst.length_le_of_later hsecond hbetween hrest
    left
    simp only [List.length_append]
    omega
  · obtain ⟨-, hrest⟩ := List.append_inj heq hsame
    exact absurd (hfirst.eq_of_append hsecond hrest) hne
  · obtain ⟨between, rfl, hrest⟩ := Text.exists_between heq.symm (by omega)
    have hbetween : between ≠ [] := by
      rintro rfl
      simp at hgt
    have hlength := hsecond.length_le_of_later hfirst hbetween hrest
    right
    simp only [List.length_append]
    omega

end Bracketed

/-- Bracketed patterns are independent if they differ from each other and from all replacements. -/
theorem independent_of_bracketed {pairs : List (List Char × List Char)}
    (hpairs : ∀ pair ∈ pairs, Bracketed pair.1 ∧ Bracketed pair.2)
    (hdistinct : (pairs.map Prod.fst).Nodup)
    (hfresh : ∀ first ∈ pairs, ∀ second ∈ pairs, first.1 ≠ second.2) (text : List Char) :
    Text.Independent pairs text := by
  induction pairs generalizing text with
  | nil => trivial
  | cons pair rest ih =>
      obtain ⟨hhead, htail⟩ := List.nodup_cons.mp hdistinct
      obtain ⟨hold, hnew⟩ := hpairs pair (by simp)
      intro before after _
      refine ⟨?_, ?_⟩
      · intro later hlater
        have hlater' := (hpairs later (by simp [hlater])).1
        refine ⟨hlater'.apart hold ?_ before after, hlater'.apart hnew ?_ before after⟩
        · intro hsame
          exact hhead (List.mem_map.mpr ⟨later, hlater, hsame⟩)
        · exact hfresh later (by simp [hlater]) pair (by simp)
      · apply ih
        · exact fun later hlater => hpairs later (by simp [hlater])
        · exact htail
        · exact fun first hfirst second hsecond =>
            hfresh first (by simp [hfirst]) second (by simp [hsecond])

theorem disjoint_of_bracketed {pairs : List (List Char × List Char)}
    (hpairs : ∀ pair ∈ pairs, Bracketed pair.1) (hdistinct : (pairs.map Prod.fst).Nodup)
    (text : List Char) : (pairs.filterMap (Text.edit? text)).Pairwise Text.Edit.Disjoint := by
  apply Text.disjoint_edits
  · intro pair hpair
    obtain ⟨tail, htail⟩ := (hpairs pair hpair).head
    simp [htail]
  · refine (List.pairwise_map.mp hdistinct).imp_of_mem ?_
    intro first second hfirst hsecond hne before after _
    exact (hpairs second hsecond).apart (hpairs first hfirst) hne.symm before after

def placeholderList (ordinals : List Nat) : List Char :=
  '(' :: ([',', ' '].intercalate (ordinals.map placeholder) ++ [')'])

theorem marker_bracketed {column : String} (h : '(' ∉ column.toList ∧ ')' ∉ column.toList) :
    Bracketed (marker column).toList := by
  refine ⟨"/*SLICE:".toList ++ (column.toList ++ "*/?".toList), ?_, ?_, ?_⟩
  · simp [marker]
  · simp [h.1]
  · simp [h.2]

/-- Placeholders are made of a question mark, digits, commas and spaces. -/
theorem not_mem_placeholders {c : Char} (hc : c ≠ '?' ∧ c ≠ ',' ∧ c ≠ ' ') (hdigit : ¬ c.isDigit)
    (ordinals : List Nat) : c ∉ [',', ' '].intercalate (ordinals.map placeholder) := by
  have hone (ordinal : Nat) : c ∉ placeholder ordinal := by
    intro hmem
    rcases List.mem_cons.mp hmem with hmark | hmem
    · exact hc.1 hmark
    · exact hdigit (Nat.isDigit_of_mem_toDigits (by omega) (by omega) hmem)
  induction ordinals with
  | nil => simp
  | cons ordinal rest ih =>
      cases rest with
      | nil => simpa using hone ordinal
      | cons next rest => simp_all

theorem placeholderList_bracketed (ordinals : List Nat) : Bracketed (placeholderList ordinals) :=
  ⟨_, rfl, not_mem_placeholders (by decide) (by decide) ordinals,
    not_mem_placeholders (by decide) (by decide) ordinals⟩

theorem marker_injective : Function.Injective fun column => (marker column).toList := by
  intro column column' h
  apply String.toList_inj.mp
  simpa [marker] using h

/-- A marker begins with a comment, and placeholders begin with a question mark. -/
theorem marker_ne_placeholderList (column : String) (ordinals : List Nat) :
    (marker column).toList ≠ placeholderList ordinals := by
  cases ordinals with
  | nil => simp [marker, placeholderList]
  | cons ordinal rest => cases rest <;> simp [marker, placeholderList, placeholder]

/-- The value that is bound to the placeholder with a number. Numbers begin at one. -/
def valueOf? {Value : Type} (values : List Value) (ordinal : Nat) : Option Value :=
  match ordinal with
  | 0 => none
  | i + 1 => values[i]?

theorem valueOf?_append {Value : Type} {values more : List Value} {ordinal : Nat} {value : Value}
    (h : valueOf? values ordinal = some value) :
    valueOf? (values ++ more) ordinal = some value := by
  cases ordinal with
  | zero => cases h
  | succ i =>
      obtain ⟨hi, -⟩ := List.getElem?_eq_some_iff.mp h
      change (values ++ more)[i]? = some value
      rw [List.getElem?_append_left hi]
      exact h

section Allocation

variable {Value : Type} (arguments : Arguments Value)

def elementsOf (param : Param) : List Value :=
  arguments.elements param.column.property

/-- The numbers of the placeholders for every list, where `last` values are bound before. -/
def allocate (last : Nat) : List Param → List (Param × List Nat)
  | [] => []
  | param :: rest =>
    let count := (elementsOf arguments param).length
    (param, ordinals param.number.toNat count last) :: allocate (last + (count - 1)) rest

def replacement (entry : Param × List Nat) : List Char × List Char :=
  ((marker entry.1.column.name).toList, placeholderList entry.2)

def addedValues (params : List Param) : List Value :=
  params.flatMap fun param => (elementsOf arguments param).drop 1

variable {arguments}

theorem map_fst_allocate (arguments : Arguments Value) (last : Nat) (params : List Param) :
    (allocate arguments last params).map Prod.fst = params := by
  induction params generalizing last with
  | nil => rfl
  | cons param rest ih => rw [allocate, List.map_cons, ih]

/-- The step: one expansion replaces its marker by the allocated numbers. -/
theorem apply_expansion {param : Param} {statement : Statement Value} {text : List Char}
    (h : Text.replaceFirst? (marker param.column.name).toList
      (placeholderList (ordinals param.number.toNat (elementsOf arguments param).length
        statement.values.length)) statement.text = some text) :
    (expansion param).apply arguments statement =
      ⟨text, statement.values ++ (elementsOf arguments param).drop 1⟩ := by
  change Statement.mk ((Text.replaceFirst? (marker param.column.name).toList
    (placeholderList (ordinals param.number.toNat (elementsOf arguments param).length
      statement.values.length)) statement.text).getD statement.text) _ = _
  rw [h]
  rfl

/-- The run: all expansions together replace the markers in turn. -/
theorem foldl_expansions {params : List Param} {statement : Statement Value} {text : List Char}
    (h : Text.replaceInTurn?
      ((allocate arguments statement.values.length params).map replacement) statement.text =
        some text) :
    (params.map expansion).foldl (Expansion.apply arguments) statement =
      ⟨text, statement.values ++ addedValues arguments params⟩ := by
  induction params generalizing statement with
  | nil =>
      obtain rfl : statement.text = text := Option.some.inj h
      simp [addedValues]
  | cons param rest ih =>
      obtain ⟨middle, hfirst, hrest⟩ := Option.bind_eq_some_iff.mp h
      have hstep := apply_expansion hfirst
      have hlength : (elementsOf arguments param).length - 1 =
          ((elementsOf arguments param).drop 1).length := by simp
      rw [List.map_cons, List.foldl_cons, hstep, ih]
      · simp [addedValues]
      · rw [List.length_append, ← hlength]
        exact hrest

theorem exists_param_of_mem {last : Nat} {params : List Param} {pair : List Char × List Char}
    (hpair : pair ∈ (allocate arguments last params).map replacement) :
    ∃ param ∈ params, ∃ numbers, pair = replacement (param, numbers) := by
  obtain ⟨⟨param, numbers⟩, hentry, rfl⟩ := List.mem_map.mp hpair
  have hparam := List.mem_map_of_mem (f := Prod.fst) hentry
  rw [map_fst_allocate] at hparam
  exact ⟨param, hparam, numbers, rfl⟩

section Markers

variable {last : Nat} {params : List Param}

theorem nodup_markers (hnames : (params.map fun param => param.column.name).Nodup) :
    (((allocate arguments last params).map replacement).map Prod.fst).Nodup := by
  have hmarkers : ((allocate arguments last params).map replacement).map Prod.fst =
      (params.map fun param => param.column.name).map fun column => (marker column).toList := by
    conv_rhs => rw [← map_fst_allocate arguments last params]
    simp only [List.map_map]
    rfl
  rw [hmarkers]
  exact hnames.map marker_injective

theorem bracketed_of_mem
    (hparens : ∀ param ∈ params, '(' ∉ param.column.name.toList ∧ ')' ∉ param.column.name.toList) :
    ∀ pair ∈ (allocate arguments last params).map replacement,
      Bracketed pair.1 ∧ Bracketed pair.2 := by
  intro pair hpair
  obtain ⟨param, hparam, numbers, rfl⟩ := exists_param_of_mem hpair
  exact ⟨marker_bracketed (hparens param hparam), placeholderList_bracketed numbers⟩

/-- Markers that stand in the text are replaced in turn as they would be at once. -/
theorem replaceInTurn?_allocate {text : List Char}
    (hnames : (params.map fun param => param.column.name).Nodup)
    (hparens : ∀ param ∈ params, '(' ∉ param.column.name.toList ∧ ')' ∉ param.column.name.toList)
    (hfound : ∀ param ∈ params, Text.positions (marker param.column.name).toList text ≠ []) :
    Text.replaceInTurn? ((allocate arguments last params).map replacement) text =
      some (Text.replaceAtOnce ((allocate arguments last params).map replacement) text) := by
  have hindependent :
      Text.Independent ((allocate arguments last params).map replacement) text := by
    apply independent_of_bracketed (bracketed_of_mem hparens) (nodup_markers hnames)
    intro pair hpair pair' hpair'
    obtain ⟨param, -, numbers, rfl⟩ := exists_param_of_mem hpair
    obtain ⟨param', -, numbers', rfl⟩ := exists_param_of_mem hpair'
    exact marker_ne_placeholderList _ _
  rw [Text.replaceInTurn?_eq _ hindependent, if_pos]
  · intro pair hpair
    obtain ⟨param, hparam, numbers, rfl⟩ := exists_param_of_mem hpair
    exact hfound param hparam
  · intro pair hpair
    obtain ⟨param, -, numbers, rfl⟩ := exists_param_of_mem hpair
    simp [replacement, marker]

end Markers

/-- The numbers of a list are bound to its elements, in order. -/
theorem map_valueOf?_ordinals {values elements later : List Value} {number : Nat}
    (hne : elements ≠ []) (hfirst : valueOf? values number = elements.head?) :
    (ordinals number elements.length values.length).map
      (valueOf? (values ++ (elements.drop 1 ++ later))) = elements.map some := by
  cases elements with
  | nil => exact absurd rfl hne
  | cons first tail =>
      have hhead : valueOf? (values ++ (tail ++ later)) number = some first :=
        valueOf?_append hfirst
      have htail : (List.range tail.length).map
          (fun i => (values ++ (tail ++ later))[values.length + i]?) = tail.map some := by
        apply List.ext_getElem
        · simp
        · intro i hi hi'
          rw [List.length_map] at hi'
          rw [List.getElem_map, List.getElem_map, List.getElem_range,
            List.getElem?_append_right (Nat.le_add_right _ _), Nat.add_sub_cancel_left,
            List.getElem?_append_left hi', List.getElem?_eq_getElem hi']
      simp only [ordinals, List.length_cons, Nat.add_sub_cancel, List.map_cons, List.map_map,
        List.drop_one, List.tail_cons, hhead]
      congr 1

/-- Every allocated number is bound to the element that it was allocated for. -/
theorem map_valueOf?_allocate {values : List Value} {params : List Param}
    (hfirst : ∀ param ∈ params,
      valueOf? values param.number.toNat = (elementsOf arguments param).head?)
    (hlists : ∀ param ∈ params, elementsOf arguments param ≠ []) :
    ∀ entry ∈ allocate arguments values.length params,
      entry.2.map (valueOf? (values ++ addedValues arguments params)) =
        (elementsOf arguments entry.1).map some := by
  induction params generalizing values with
  | nil => simp [allocate]
  | cons param rest ih =>
      intro entry hentry
      have hadded : addedValues arguments (param :: rest) =
          (elementsOf arguments param).drop 1 ++ addedValues arguments rest := rfl
      rw [hadded]
      rcases List.mem_cons.mp hentry with rfl | hentry
      · exact map_valueOf?_ordinals (hlists param (by simp)) (hfirst param (by simp))
      · rw [← List.append_assoc]
        apply ih
        · intro later hlater
          have hne := hlists later (by simp [hlater])
          obtain ⟨first, hhead⟩ := Option.ne_none_iff_exists'.mp
            (mt List.head?_eq_none_iff.mp hne)
          have hbound := hfirst later (by simp [hlater])
          rw [hhead] at hbound ⊢
          exact valueOf?_append hbound
        · exact fun later hlater => hlists later (by simp [hlater])
        · simpa [List.length_append] using hentry

/-- The allocated numbers are those of the markers and as many new ones as there are new values. -/
theorem flatMap_snd_allocate (last : Nat) (params : List Param) :
    ((allocate arguments last params).flatMap Prod.snd).Perm
      (params.map (fun param => param.number.toNat) ++
        List.range' (last + 1) (addedValues arguments params).length) := by
  induction params generalizing last with
  | nil => simp [allocate, addedValues]
  | cons param rest ih =>
      let count := (elementsOf arguments param).length
      have hordinals : ordinals param.number.toNat count last =
          param.number.toNat :: List.range' (last + 1) (count - 1) := by
        simp [ordinals, List.range'_eq_map_range, Nat.add_right_comm]
      have hadded : (addedValues arguments (param :: rest)).length =
          (count - 1) + (addedValues arguments rest).length := by
        simp [addedValues, count]
      have hrange : List.range' (last + 1) ((count - 1) + (addedValues arguments rest).length) =
          List.range' (last + 1) (count - 1) ++
            List.range' (last + (count - 1) + 1) (addedValues arguments rest).length := by
        rw [← List.range'_append_1, Nat.add_right_comm]
      rw [allocate, List.flatMap_cons, hordinals, hadded, hrange, List.map_cons, List.cons_append,
        List.cons_append]
      apply List.Perm.cons
      calc
        _ = List.range' (last + 1) (count - 1) ++
            (allocate arguments (last + (count - 1)) rest).flatMap Prod.snd := rfl
        List.Perm _ _ := (ih (last + (count - 1))).append_left _
        List.Perm _ _ := List.perm_append_comm_assoc _ _ _

/-- What a call binds at first, if no list is empty: a value for every parameter. -/
theorem exists_seed {params : List Param}
    (hlists : ∀ param ∈ params, param.column.isSlice → elementsOf arguments param ≠ []) :
    ∃ values, (params.map bound).mapM (Bound.value? arguments) = some values ∧
      values.map some = params.map fun param => (bound param).value? arguments := by
  induction params with
  | nil => exact ⟨[], rfl, rfl⟩
  | cons param rest ih =>
      obtain ⟨values, hvalues, hmap⟩ := ih fun later hlater => hlists later (by simp [hlater])
      obtain ⟨value, hvalue⟩ : ∃ value, (bound param).value? arguments = some value := by
        by_cases hslice : param.column.isSlice
        · have hne := hlists param (by simp) hslice
          rw [bound, if_pos hslice]
          exact Option.ne_none_iff_exists'.mp (mt List.head?_eq_none_iff.mp hne)
        · rw [bound, if_neg hslice]
          exact ⟨_, rfl⟩
      refine ⟨value :: values, ?_, ?_⟩
      · rw [List.map_cons, List.mapM_cons, hvalue, hvalues]
        rfl
      · rw [List.map_cons, List.map_cons, hmap, hvalue]

end Allocation

end TypedSql.Slice

namespace TypedSql.Query

open Slice

def sliceParams (query : Query) : List Param :=
  query.params.filter fun param => param.column.isSlice

def fixedParams (query : Query) : List Param :=
  query.params.filter fun param => !param.column.isSlice

/-- At first, every parameter's number is bound to its value or to the first element of its list. -/
theorem valueOf?_seed {Value : Type} {arguments : Arguments Value} {query : Query}
    {values : List Value}
    (hnumbers : query.params.map (fun param => param.number.toNat) =
      List.range' 1 query.params.length)
    (hseed : values.map some = query.params.map fun param => (bound param).value? arguments)
    {param : Param} (hparam : param ∈ query.params) :
    valueOf? values param.number.toNat = (bound param).value? arguments := by
  obtain ⟨i, hi, rfl⟩ := List.getElem_of_mem hparam
  have hnumber : query.params[i].number.toNat = i + 1 := by
    have hget := congrArg (fun numbers => numbers[i]?) hnumbers
    simp only [List.getElem?_map, List.getElem?_eq_getElem hi, Option.map_some,
      List.getElem?_range' hi] at hget
    rw [Option.some.inj hget]
    omega
  have hlength : values.length = query.params.length := by
    simpa using congrArg List.length hseed
  have hvalue := congrArg (fun values => values[i]?) hseed
  simp only [List.getElem?_map, List.getElem?_eq_getElem hi, Option.map_some] at hvalue
  rw [List.getElem?_eq_getElem (by omega), Option.map_some] at hvalue
  rw [hnumber]
  change values[i]? = _
  rw [List.getElem?_eq_getElem (by omega)]
  exact Option.some.inj hvalue

/-- The numbers of single values and of lists are the numbers of all bound values, each once. -/
theorem perm_allocate {Value : Type} {arguments : Arguments Value} {query : Query}
    (hnumbers : query.params.map (fun param => param.number.toNat) =
      List.range' 1 query.params.length) :
    (query.fixedParams.map (fun param => param.number.toNat) ++
      (allocate arguments query.params.length query.sliceParams).flatMap Prod.snd).Perm
        (List.range' 1
          (query.params.length + (addedValues arguments query.sliceParams).length)) := by
  have hsplit : (query.sliceParams ++ query.fixedParams).Perm query.params :=
    List.filter_append_perm _ _
  have hold := hsplit.map fun param => param.number.toNat
  rw [hnumbers, List.map_append] at hold
  have hrange : List.range' 1 query.params.length ++
      List.range' (query.params.length + 1) (addedValues arguments query.sliceParams).length =
        List.range' 1
          (query.params.length + (addedValues arguments query.sliceParams).length) := by
    rw [Nat.add_comm query.params.length 1, List.range'_append_1]
  rw [← hrange]
  calc
    List.Perm _ _ := (flatMap_snd_allocate _ _).append_left _
    _ = (query.fixedParams.map (fun param => param.number.toNat) ++
          query.sliceParams.map fun param => param.number.toNat) ++
        List.range' (query.params.length + 1)
          (addedValues arguments query.sliceParams).length := (List.append_assoc _ _ _).symm
    List.Perm _ _ := ((List.perm_append_comm).trans hold).append_right _

/-- A call binds every placeholder to the right value. The parameters are numbered in order, and
the marker of each list parameter stands once in the text, with a name of its own that has no
parenthesis. Then a call with lists that are not empty succeeds. In the place of each marker, where
it stands, are placeholders for as many numbers as the list has elements, and they are bound to
these elements in order. No two markers overlap, and the rest of the text is as it was. Every other
parameter's number is still bound to its value, and every bound value has one number. -/
theorem call_binds_placeholders {Value : Type} (query : Query) (plan : Plan)
    (arguments : Arguments Value) (text : List Char) (hplan : query.slicePlan? = some plan)
    (hnumbers : query.params.map (fun param => param.number.toNat) =
      List.range' 1 query.params.length)
    (hnames : (query.sliceParams.map fun param => param.column.name).Nodup)
    (hparens : ∀ param ∈ query.sliceParams,
      '(' ∉ param.column.name.toList ∧ ')' ∉ param.column.name.toList)
    (honce : ∀ param ∈ query.sliceParams,
      (Text.positions (marker param.column.name).toList text).length = 1)
    (hlists : ∀ param ∈ query.sliceParams, arguments.elements param.column.property ≠ []) :
    ∃ (statement : Statement Value) (allocation : List (Param × List Nat)),
      plan.call? arguments text = some statement ∧
      allocation.map Prod.fst = query.sliceParams ∧
      statement.text = Text.replaceAtOnce (allocation.map replacement) text ∧
      ((allocation.map replacement).filterMap (Text.edit? text)).Pairwise Text.Edit.Disjoint ∧
      (∀ entry ∈ allocation,
        entry.2.length = (arguments.elements entry.1.column.property).length ∧
        entry.2.map (valueOf? statement.values) =
          (arguments.elements entry.1.column.property).map some) ∧
      (∀ param ∈ query.fixedParams, valueOf? statement.values param.number.toNat =
        some (arguments.value param.column.property)) ∧
      (query.fixedParams.map (fun param => param.number.toNat) ++
        allocation.flatMap Prod.snd).Perm (List.range' 1 statement.values.length) := by
  have hseedLists : ∀ param ∈ query.params, param.column.isSlice = true →
      arguments.elements param.column.property ≠ [] :=
    fun param hparam hlist => hlists param (List.mem_filter.mpr ⟨hparam, hlist⟩)
  obtain ⟨values, hseed, hvalues⟩ := exists_seed hseedLists
  have hlength : values.length = query.params.length := by
    simpa using congrArg List.length hvalues
  have hbound (param : Param) (hparam : param ∈ query.params) :=
    valueOf?_seed hnumbers hvalues hparam
  let allocation := allocate arguments values.length query.sliceParams
  let added := addedValues arguments query.sliceParams
  have htext : Text.replaceInTurn? (allocation.map replacement) text =
      some (Text.replaceAtOnce (allocation.map replacement) text) := by
    apply replaceInTurn?_allocate hnames hparens
    intro param hparam hnone
    have hone := honce param hparam
    rw [hnone] at hone
    cases hone
  -- The call expands the lists one after the other.
  have hcall : plan.call? arguments text =
      some ⟨Text.replaceAtOnce (allocation.map replacement) text, values ++ added⟩ := by
    have hplan' : plan = ⟨query.params.map bound, query.sliceParams.map expansion⟩ := by
      rw [slicePlan?] at hplan
      split at hplan
      · exact (Option.some.inj hplan).symm
      · cases hplan
    have hrun : (query.sliceParams.map expansion).foldl (Expansion.apply arguments)
        ⟨text, values⟩ = _ := foldl_expansions htext
    rw [hplan', Plan.call?, hseed, Option.map_some, hrun]
  refine ⟨_, allocation, hcall, map_fst_allocate _ _ _, rfl, ?_, ?_, ?_, ?_⟩
  · apply disjoint_of_bracketed _ (nodup_markers hnames)
    exact fun pair hpair => (bracketed_of_mem hparens pair hpair).1
  · intro entry hentry
    have hfirst (param : Param) (hparam : param ∈ query.sliceParams) :
        valueOf? values param.number.toNat = (elementsOf arguments param).head? := by
      obtain ⟨hmem, hlist⟩ := List.mem_filter.mp hparam
      rw [hbound param hmem, bound, if_pos hlist]
      rfl
    have hmap := map_valueOf?_allocate hfirst hlists entry hentry
    refine ⟨?_, hmap⟩
    simpa [elementsOf] using congrArg List.length hmap
  · intro param hparam
    obtain ⟨hmem, hfixed⟩ := List.mem_filter.mp hparam
    apply valueOf?_append
    rw [hbound param hmem, bound, if_neg (by simpa using hfixed)]
    rfl
  · simp only [allocation, added, List.length_append, hlength]
    exact perm_allocate hnumbers

/-- Two lists around a single value. Their markers stand in the text in the other order. -/
def twoLists : Query where
  name := "Find"
  command := .many
  text := "a IN (/*SLICE:ys*/?) AND b = ?2 AND c IN (/*SLICE:xs*/?)"
  params := [⟨1, { name := "xs", isSlice := true }⟩, ⟨2, { name := "b" }⟩,
    ⟨3, { name := "ys", isSlice := true }⟩]

theorem call_binds_two_lists :
    ∃ (statement : Statement Nat) (allocation : List (Param × List Nat)),
      (Plan.mk twoLists.bounds (twoLists.sliceParams.map expansion)).call?
        ⟨fun _ => 0, fun property => if property = "xs" then [1, 2] else [3, 4, 5]⟩
        twoLists.text.toList = some statement ∧
      allocation.map Prod.fst = twoLists.sliceParams ∧
      ∀ entry ∈ allocation, entry.2.map (valueOf? statement.values) =
        (if entry.1.column.property = "xs" then [1, 2] else [3, 4, 5]).map some := by
  obtain ⟨statement, allocation, hcall, hfirst, -, -, hvalues, -⟩ :=
    call_binds_placeholders twoLists
      ⟨twoLists.bounds, twoLists.sliceParams.map expansion⟩
      ⟨fun _ => 0, fun property => if property = "xs" then [1, 2] else [3, 4, 5]⟩
      twoLists.text.toList rfl (by decide) (by decide) (by decide +kernel) (by decide +kernel)
      (by
        intro param _
        change (if param.column.property = "xs" then [1, 2] else [3, 4, 5]) ≠ []
        split <;> simp)
  exact ⟨statement, allocation, hcall, hfirst, fun entry hentry => (hvalues entry hentry).2⟩

end TypedSql.Query
