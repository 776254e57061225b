import Mathlib.Data.List.Basic
import TypedSql.Catalog.Lookup
import TypedSql.Catalog.TypeTable

/-!
Which entry counts where several have one name. Of tables, of the columns of a table and of the
types that users give, it is the last; tables of all schemas stand in one order, and what is
declared in a table that does not count is not looked at.
-/

namespace TypedSql

section LastWith

variable {α : Type} {p : α → Prop} {xs : List α} {x y : α}

/-- The last element of a list with a property. -/
def LastWith (p : α → Prop) (xs : List α) (x : α) : Prop :=
  ∃ before after, xs = before ++ x :: after ∧ p x ∧ ∀ y ∈ after, ¬ p y

theorem getLast?_filter_eq_some_iff [DecidablePred p] :
    (xs.filter (p ·)).getLast? = some x ↔ LastWith p xs x := by
  rw [List.getLast?_filter, List.find?_eq_some_iff_append, decide_eq_true_eq]
  constructor
  · rintro ⟨hx, after, before, hsplit, hafter⟩
    refine ⟨before.reverse, after.reverse, ?_, hx, ?_⟩
    · rw [← xs.reverse_reverse, hsplit, List.reverse_append, List.reverse_cons, List.append_assoc]
      rfl
    · intro y hy
      simpa using hafter y (List.mem_reverse.mp hy)
  · rintro ⟨before, after, rfl, hx, hafter⟩
    refine ⟨hx, after.reverse, before.reverse, by simp, ?_⟩
    intro y hy
    simpa using hafter y (List.mem_reverse.mp hy)

theorem getLast?_filter_eq_none_iff [DecidablePred p] :
    (xs.filter (p ·)).getLast? = none ↔ ∀ x ∈ xs, ¬ p x := by
  simp

end LastWith

namespace Catalog

variable {catalog : Catalog} {column declared : Column}

theorem table?_eq_some_iff {name : Identifier} {table : Table} :
    catalog.table? name = some table ↔ LastWith (·.rel = name) catalog.tables table :=
  getLast?_filter_eq_some_iff

/-- The schema's declaration of a column: of the last table with the name of the column's table, the
last column with the column's name. -/
def Declares (catalog : Catalog) (column declared : Column) : Prop :=
  ∃ owner table, column.table = some owner ∧ LastWith (·.rel = owner) catalog.tables table ∧
    LastWith (·.name = column.name) table.columns declared

theorem declaration?_eq_some_iff :
    catalog.declaration? column = some declared ↔ catalog.Declares column declared := by
  rw [declaration?, Declares]
  cases column.table with
  | none => simp
  | some owner =>
      simp only [Option.some.injEq, exists_and_left, exists_eq_left', ← table?_eq_some_iff]
      cases catalog.table? owner with
      | none => simp
      | some table =>
          simp only [Option.some.injEq, exists_eq_left']
          exact getLast?_filter_eq_some_iff

/-- A column has no declaration if it names no table, if no table has that name, or if the table
that counts has no such column. -/
theorem declaration?_eq_none_iff : catalog.declaration? column = none ↔
    column.table = none ∨ ∃ owner, column.table = some owner ∧
      ((∀ table ∈ catalog.tables, table.rel ≠ owner) ∨
        ∃ table, LastWith (·.rel = owner) catalog.tables table ∧
          ∀ c ∈ table.columns, c.name ≠ column.name) := by
  rw [declaration?]
  cases column.table with
  | none => simp
  | some owner =>
      simp only [Option.some.injEq, exists_eq_left', reduceCtorEq, false_or, ← table?_eq_some_iff,
        ← table?_eq_none_iff]
      cases catalog.table? owner with
      | none => simp
      | some table =>
          simp only [Option.some.injEq, exists_eq_left', reduceCtorEq, false_or]
          exact getLast?_filter_eq_none_iff

end Catalog

namespace TypeTable

variable {overrides : List TypeOverride} {sqlType type : String}

/-- The type of a database type before any suffix: of the last override for it, else the built-in
one, else the type of everything unknown. The letter case of its name does not matter. -/
inductive BaseType (overrides : List TypeOverride) (sqlType : String) : String → Prop
  | overridden (o : TypeOverride)
      (hlast : LastWith (fun o => Text.upperCase o.sqlType = Text.upperCase sqlType) overrides o) :
      BaseType overrides sqlType o.codeType
  | builtIn (type : String)
      (hnone : ∀ o ∈ overrides, Text.upperCase o.sqlType ≠ Text.upperCase sqlType)
      (hbuiltIn : (Text.upperCase sqlType, type) ∈ TypeTable.builtIn) :
      BaseType overrides sqlType type
  | fallback (hnone : ∀ o ∈ overrides, Text.upperCase o.sqlType ≠ Text.upperCase sqlType)
      (hbuiltIn : ∀ entry ∈ TypeTable.builtIn, entry.1 ≠ Text.upperCase sqlType) :
      BaseType overrides sqlType "number | string"

/-- The entries of the table begin with the last override. -/
theorem lookup_overrides (overrides : List TypeOverride) (name : String) :
    (overrides.map fun o => (Text.upperCase o.sqlType, o.codeType)).reverse.lookup name =
      ((overrides.filter (Text.upperCase ·.sqlType = name)).getLast?).map
        TypeOverride.codeType := by
  induction overrides with
  | nil => rfl
  | cons o overrides ih =>
      rw [List.map_cons, List.reverse_cons, List.lookup_append, ih, List.filter_cons]
      by_cases hname : Text.upperCase o.sqlType = name
      · rw [if_pos (decide_eq_true hname), List.getLast?_cons, List.lookup_cons, hname,
          beq_self_eq_true]
        cases (overrides.filter (Text.upperCase ·.sqlType = name)).getLast? with
        | none => rfl
        | some last => rfl
      · have hne : (name == Text.upperCase o.sqlType) = false :=
          beq_eq_false_iff_ne.mpr (Ne.symm hname)
        rw [if_neg (by simpa using hname), List.lookup_cons, hne]
        exact Option.or_none

theorem type?_ofOverrides (overrides : List TypeOverride) (sqlType : String) :
    (ofOverrides overrides).type? sqlType =
      ((overrides.filter (Text.upperCase ·.sqlType = Text.upperCase sqlType)).getLast?.map
        TypeOverride.codeType).or (builtIn.lookup (Text.upperCase sqlType)) := by
  rw [type?, ofOverrides, List.lookup_append, lookup_overrides]

theorem lookup_builtIn_eq_some_iff {name : String} :
    builtIn.lookup name = some type ↔ (name, type) ∈ builtIn := by
  constructor
  · intro h
    obtain ⟨before, after, hsplit, -⟩ := List.lookup_eq_some_iff.mp h
    exact hsplit ▸ List.mem_append_right _ (List.mem_cons_self ..)
  · have hall : ∀ entry ∈ builtIn, builtIn.lookup entry.1 = some entry.2 := by decide
    exact hall (name, type)

/-- A database type is unknown if no override and no built-in type is for it. -/
theorem type?_eq_none_iff : (ofOverrides overrides).type? sqlType = none ↔
    (∀ o ∈ overrides, Text.upperCase o.sqlType ≠ Text.upperCase sqlType) ∧
      ∀ entry ∈ builtIn, entry.1 ≠ Text.upperCase sqlType := by
  rw [type?_ofOverrides, Option.or_eq_none_iff, Option.map_eq_none_iff, getLast?_filter_eq_none_iff,
    List.lookup_eq_none_iff]
  simp only [bne_iff_ne, ne_comm]

theorem baseType_scalar (overrides : List TypeOverride) (sqlType : String) :
    BaseType overrides sqlType ((ofOverrides overrides).scalar sqlType) := by
  rw [scalar]
  cases htype : (ofOverrides overrides).type? sqlType with
  | none =>
      obtain ⟨hnone, hbuiltIn⟩ := type?_eq_none_iff.mp htype
      exact .fallback hnone hbuiltIn
  | some type =>
      rw [type?_ofOverrides, Option.or_eq_some_iff, Option.map_eq_none_iff, Option.map_eq_some_iff,
        getLast?_filter_eq_none_iff, lookup_builtIn_eq_some_iff] at htype
      rcases htype with ⟨o, hlast, rfl⟩ | ⟨hnone, hbuiltIn⟩
      · exact .overridden o (getLast?_filter_eq_some_iff.mp hlast)
      · exact .builtIn type hnone hbuiltIn

theorem baseType_iff :
    BaseType overrides sqlType type ↔ type = (ofOverrides overrides).scalar sqlType := by
  constructor
  · intro h
    rw [scalar]
    cases h with
    | overridden o hlast =>
        rw [type?_ofOverrides, getLast?_filter_eq_some_iff.mpr hlast]
        rfl
    | builtIn type hnone hbuiltIn =>
        rw [type?_ofOverrides, getLast?_filter_eq_none_iff.mpr hnone,
          lookup_builtIn_eq_some_iff.mpr hbuiltIn]
        rfl
    | fallback hnone hbuiltIn =>
        rw [type?_eq_none_iff.mpr ⟨hnone, hbuiltIn⟩]
        rfl
  · rintro rfl
    exact baseType_scalar overrides sqlType

end TypeTable

end TypedSql
