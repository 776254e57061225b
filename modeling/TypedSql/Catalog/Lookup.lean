import TypedSql.Catalog

/-!
Finding tables and columns by name. Tables of all schemas share one set of names: of several tables
with one name the last one counts, and of several columns of a table likewise the last.
-/

namespace TypedSql.Catalog

def table? (catalog : Catalog) (name : Identifier) : Option Table :=
  (catalog.tables.filter fun table => table.rel == name).getLast?

/-- The schema's declaration of a column that names its table. -/
def declaration? (catalog : Catalog) (column : Column) : Option Column :=
  match column.table with
  | none => none
  | some owner =>
    match catalog.table? owner with
    | none => none
    | some table => (table.columns.filter fun c => c.name == column.name).getLast?

/-- Whether a column that claims never to be null is declared as one that may be. -/
def widens (catalog : Catalog) (column : Column) : Bool :=
  column.notNull && (catalog.declaration? column).any fun declared => !declared.notNull

/-- A table that is found belongs to the catalog and has the name. -/
theorem table?_eq_some {catalog : Catalog} {name : Identifier} {table : Table}
    (h : catalog.table? name = some table) : table ∈ catalog.tables ∧ table.rel = name := by
  have := List.mem_of_getLast? h
  simpa using this

/-- A name is missing exactly when no table has it. -/
theorem table?_eq_none_iff {catalog : Catalog} {name : Identifier} :
    catalog.table? name = none ↔ ∀ table ∈ catalog.tables, table.rel ≠ name := by
  simp [table?]

end TypedSql.Catalog
