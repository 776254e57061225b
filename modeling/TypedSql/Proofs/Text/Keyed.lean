import Mathlib.Data.List.Induction
import Mathlib.Data.List.Sort
import TypedSql.Text.Keyed

/-!
Lists by name. Such a list is fixed by two facts: its names increase, and it holds the last value of
each name. So two lists of which every name has the same last value are one list by name.
-/

namespace TypedSql.Text

variable {α β : Type} {pairs pairs' : List (String × α)} {key : String} {value : α}

def lastValue? (pairs : List (String × α)) (key : String) : Option α :=
  ((pairs.filter fun pair => pair.1 == key).getLast?).map Prod.snd

theorem lastValue?_append_singleton (pairs : List (String × α)) (pair : String × α) (key : String) :
    lastValue? (pairs ++ [pair]) key =
      if pair.1 = key then some pair.2 else lastValue? pairs key := by
  rw [lastValue?, List.filter_append]
  by_cases h : pair.1 = key <;> simp [h, lastValue?]

/-- A value that is put in later replaces the one before it. -/
theorem getElem?_ofList (pairs : List (String × α)) (key : String) :
    (Std.TreeMap.ofList pairs compare)[key]? = lastValue? pairs key := by
  induction pairs using List.reverseRecOn with
  | nil => rfl
  | append_singleton pairs pair ih =>
      rw [Std.TreeMap.ofList_eq_insertMany_empty] at ih ⊢
      rw [Std.TreeMap.insertMany_append, Std.TreeMap.insertMany_list_singleton,
        Std.TreeMap.getElem?_insert, ih, lastValue?_append_singleton]
      simp only [Std.compare_eq_iff_eq]

theorem mem_lastByName : (key, value) ∈ lastByName pairs ↔ lastValue? pairs key = some value := by
  rw [lastByName, Std.TreeMap.mem_toList_iff_getElem?_eq_some, getElem?_ofList]

theorem pairwise_lastByName (pairs : List (String × α)) :
    (lastByName pairs).Pairwise fun first second => first.1 < second.1 := by
  have hordered : (lastByName pairs).Pairwise fun first second =>
      compare first.1 second.1 = .lt := Std.TreeMap.ordered_keys_toList
  exact hordered.imp fun h => compareOfLessAndEq_eq_lt.mp h

/-- A list with increasing names that holds the last values is the list by name. -/
theorem eq_lastByName {sorted : List (String × α)}
    (hsorted : sorted.Pairwise fun first second => first.1 < second.1)
    (hmem : ∀ key value, (key, value) ∈ sorted ↔ lastValue? pairs key = some value) :
    sorted = lastByName pairs := by
  have : Std.Irrefl fun first second : String × α => first.1 < second.1 :=
    ⟨fun pair => String.lt_irrefl pair.1⟩
  have : Std.Antisymm fun first second : String × α => first.1 < second.1 :=
    ⟨fun _ _ h h' => absurd h' (String.lt_asymm h)⟩
  refine hsorted.eq_of_mem_iff (pairwise_lastByName pairs) ?_
  rintro ⟨key, value⟩
  rw [hmem, mem_lastByName]

theorem lastByName_congr (h : ∀ key, lastValue? pairs key = lastValue? pairs' key) :
    lastByName pairs = lastByName pairs' :=
  eq_lastByName (pairwise_lastByName pairs) fun key value => by rw [mem_lastByName, h]

theorem lastValue?_map (f : α → β) (pairs : List (String × α)) (key : String) :
    lastValue? (pairs.map (Prod.map id f)) key = (lastValue? pairs key).map f := by
  simp only [lastValue?, List.filter_map, List.getLast?_map, Option.map_map]
  rfl

/-- What is done to all values is done to the last ones. -/
theorem lastByName_map (f : α → β) (pairs : List (String × α)) :
    lastByName (pairs.map (Prod.map id f)) = (lastByName pairs).map (Prod.map id f) := by
  symm
  apply eq_lastByName
  · exact List.pairwise_map.mpr (pairwise_lastByName pairs)
  · intro key value
    rw [lastValue?_map, Option.map_eq_some_iff, List.mem_map]
    constructor
    · rintro ⟨⟨name, before⟩, hmem, hpair⟩
      obtain ⟨rfl, rfl⟩ := Prod.mk.inj hpair
      exact ⟨before, mem_lastByName.mp hmem, rfl⟩
    · rintro ⟨before, hbefore, rfl⟩
      exact ⟨(key, before), mem_lastByName.mpr hbefore, rfl⟩

theorem lookup_lastByName (pairs : List (String × α)) (key : String) :
    (lastByName pairs).lookup key = lastValue? pairs key := by
  apply Option.ext
  intro value
  rw [← mem_lastByName, List.lookup_eq_some_iff]
  constructor
  · rintro ⟨before, after, hsplit, -⟩
    rw [hsplit]
    exact List.mem_append_right before List.mem_cons_self
  · intro hmem
    obtain ⟨before, after, hsplit⟩ := List.append_of_mem hmem
    have hsorted := pairwise_lastByName pairs
    rw [hsplit, List.pairwise_append] at hsorted
    refine ⟨before, after, hsplit, fun pair hpair => ?_⟩
    have hlt := hsorted.2.2 pair hpair (key, value) List.mem_cons_self
    refine bne_iff_ne.mpr fun hsame => ?_
    rw [hsame] at hlt
    exact String.lt_irrefl _ hlt

section Distinct

/-- Where no two pairs have one key, every value is the last of its key. -/
theorem lastValue?_eq_some_iff_mem (hkeys : (pairs.map Prod.fst).Nodup) :
    lastValue? pairs key = some value ↔ (key, value) ∈ pairs := by
  rw [lastValue?, Option.map_eq_some_iff]
  constructor
  · rintro ⟨⟨name, value⟩, hlast, rfl⟩
    obtain ⟨hmem, hname⟩ := List.mem_filter.mp (List.mem_of_getLast? hlast)
    obtain rfl := eq_of_beq hname
    exact hmem
  · intro hmem
    have hfilter : (key, value) ∈ pairs.filter fun pair => pair.1 == key :=
      List.mem_filter.mpr ⟨hmem, beq_self_eq_true key⟩
    have hlast := List.getLast?_eq_some_getLast (List.ne_nil_of_mem hfilter)
    obtain ⟨hother, hname⟩ := List.mem_filter.mp (List.mem_of_getLast? hlast)
    have hsame := List.inj_on_of_nodup_map hkeys hother hmem (eq_of_beq hname)
    exact ⟨_, hlast, congrArg Prod.snd hsame⟩

theorem lastValue?_perm (hkeys : (pairs.map Prod.fst).Nodup) (hperm : pairs.Perm pairs')
    (key : String) : lastValue? pairs key = lastValue? pairs' key := by
  have hkeys' : (pairs'.map Prod.fst).Nodup := (hperm.map Prod.fst).nodup_iff.mp hkeys
  apply Option.ext
  intro value
  rw [lastValue?_eq_some_iff_mem hkeys, lastValue?_eq_some_iff_mem hkeys', hperm.mem_iff]

end Distinct

end TypedSql.Text
