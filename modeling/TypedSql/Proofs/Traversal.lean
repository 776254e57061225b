import Mathlib.Data.List.Forall2

/-!
Lists whose elements are converted one after the other. The list is converted if every element can
be, and then the results stand in the order of the elements; otherwise the first element that cannot
be converted decides what the failure is.
-/

namespace TypedSql.Traversal

section Related

variable {α β : Type} {R : α → β → Prop} {xs : List α} {ys : List β}

theorem exists_of_mem {x : α} (h : List.Forall₂ R xs ys) (hmem : x ∈ xs) : ∃ y ∈ ys, R x y := by
  induction h with
  | nil => cases hmem
  | @cons first y xs ys hfirst hrest ih =>
      rcases List.mem_cons.mp hmem with rfl | hmem
      · exact ⟨y, by simp, hfirst⟩
      · obtain ⟨other, hother, hrelated⟩ := ih hmem
        exact ⟨other, List.mem_cons_of_mem y hother, hrelated⟩

theorem forall_mem {P : β → Prop} (hstep : ∀ x y, R x y → P y) (h : List.Forall₂ R xs ys) :
    ∀ y ∈ ys, P y := by
  intro y hy
  obtain ⟨x, -, hxy⟩ := exists_of_mem h.flip hy
  exact hstep x y hxy

/-- A relation that is a function relates a list to its images. -/
theorem forall₂_iff_map_eq {convert : α → β} (h : ∀ x y, R x y ↔ convert x = y) :
    List.Forall₂ R xs ys ↔ xs.map convert = ys := by
  rw [← List.forall₂_eq_eq_eq, List.forall₂_map_left_iff]
  simp only [← h]

end Related

section Failing

variable {α β ε : Type} {f : α → Except ε β} {xs : List α}

theorem bind_eq_ok {x : Except ε α} {next : α → Except ε β} {value : β} :
    x >>= next = .ok value ↔ ∃ middle, x = .ok middle ∧ next middle = .ok value := by
  cases x <;> simp [Bind.bind, Except.bind]

theorem map_eq_ok {x : Except ε α} {g : α → β} {value : β} :
    x.map g = .ok value ↔ ∃ middle, x = .ok middle ∧ g middle = value := by
  cases x <;> simp [Except.map]

theorem map_eq_error {x : Except ε α} {g : α → β} {e : ε} : x.map g = .error e ↔ x = .error e := by
  cases x <;> simp [Except.map]

theorem mapM_eq_ok {ys : List β} :
    xs.mapM f = .ok ys ↔ List.Forall₂ (fun x y => f x = .ok y) xs ys := by
  induction xs generalizing ys with
  | nil =>
      rw [List.forall₂_nil_left_iff]
      exact ⟨fun h => (Except.ok.inj h).symm, fun h => congrArg Except.ok h.symm⟩
  | cons x xs ih =>
      simp only [List.mapM_cons, bind_eq_ok, ih, List.forall₂_cons_left_iff]
      constructor
      · rintro ⟨y, hy, rest, hrest, hys⟩
        exact ⟨y, rest, hy, hrest, (Except.ok.inj hys).symm⟩
      · rintro ⟨y, rest, hy, hrest, rfl⟩
        exact ⟨y, hy, rest, hrest, rfl⟩

theorem exists_mapM_eq_ok : (∃ ys, xs.mapM f = .ok ys) ↔ ∀ x ∈ xs, ∃ y, f x = .ok y := by
  simp only [mapM_eq_ok]
  induction xs with
  | nil => simp
  | cons x xs ih =>
      rw [List.forall_mem_cons, ← ih]
      constructor
      · rintro ⟨ys, h⟩
        obtain ⟨y, rest, hy, hrest, -⟩ := List.forall₂_cons_left_iff.mp h
        exact ⟨⟨y, hy⟩, rest, hrest⟩
      · rintro ⟨⟨y, hy⟩, rest, hrest⟩
        exact ⟨y :: rest, .cons hy hrest⟩

theorem mapM_congr {g : α → Except ε β} (h : ∀ x ∈ xs, f x = g x) : xs.mapM f = xs.mapM g := by
  induction xs with
  | nil => rfl
  | cons x xs ih =>
      obtain ⟨hx, hxs⟩ := List.forall_mem_cons.mp h
      rw [List.mapM_cons, List.mapM_cons, hx, ih hxs]

/-- The failure of a list is that of its first element that fails. -/
theorem mapM_eq_error {e : ε} :
    xs.mapM f = .error e ↔
      ∃ done x rest, xs = done ++ x :: rest ∧ (∀ y ∈ done, ∃ z, f y = .ok z) ∧ f x = .error e := by
  constructor
  · intro h
    induction xs with
    | nil => cases h
    | cons x xs ih =>
        rw [List.mapM_cons] at h
        cases hx : f x with
        | error e' =>
            rw [hx] at h
            obtain rfl : e' = e := Except.error.inj h
            exact ⟨[], x, xs, rfl, nofun, hx⟩
        | ok y =>
            cases hxs : xs.mapM f with
            | ok rest =>
                rw [hx, hxs] at h
                cases h
            | error e' =>
                rw [hx, hxs] at h
                obtain rfl : e' = e := Except.error.inj h
                obtain ⟨done, failing, rest, rfl, hdone, hfailing⟩ := ih hxs
                exact ⟨x :: done, failing, rest, rfl, List.forall_mem_cons.mpr ⟨⟨y, hx⟩, hdone⟩,
                  hfailing⟩
  · rintro ⟨done, x, rest, rfl, hdone, hx⟩
    obtain ⟨ys, hys⟩ := exists_mapM_eq_ok.mpr hdone
    rw [List.mapM_append, List.mapM_cons, hys, hx]
    rfl

end Failing

section Missing

variable {α β : Type} {f : α → Option β} {xs : List α}

theorem mapM_eq_some {ys : List β} :
    xs.mapM f = some ys ↔ List.Forall₂ (fun x y => f x = some y) xs ys := by
  induction xs generalizing ys with
  | nil => simp [eq_comm]
  | cons x xs ih =>
      simp only [List.mapM_cons, Option.bind_eq_bind, Option.bind_eq_some_iff, ih,
        List.forall₂_cons_left_iff]
      constructor
      · rintro ⟨y, hy, rest, hrest, hys⟩
        exact ⟨y, rest, hy, hrest, (Option.some.inj hys).symm⟩
      · rintro ⟨y, rest, hy, hrest, rfl⟩
        exact ⟨y, hy, rest, hrest, rfl⟩

end Missing

end TypedSql.Traversal
