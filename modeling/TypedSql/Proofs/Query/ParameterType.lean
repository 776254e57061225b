import TypedSql.Proofs.Catalog.LastEntry
import TypedSql.Proofs.Query.SliceType

/-!
Types of parameters. A type is made of that of the database type, for which the last override
counts, and of suffixes; whether null is allowed is asked of the parameter and of the schema's
declaration of its column, and null is added once, whichever of them allows it.
-/

namespace TypedSql.Query

variable {catalog : Catalog} {column : Column}

theorem allowsNull_iff : allowsNull catalog column = true ↔ column.notNull = false ∨
    ∃ declared, catalog.Declares column declared ∧ declared.notNull = false := by
  rw [allowsNull, Bool.or_eq_true, Option.any_eq_true, Bool.not_eq_true']
  simp only [Catalog.declaration?_eq_some_iff, Bool.not_eq_true']

/-- A column without a declaration is not widened. -/
theorem allowsNull_of_undeclared (h : catalog.declaration? column = none) :
    allowsNull catalog column = !column.notNull := by
  rw [allowsNull, h, Option.any_none, Bool.or_false]

/-- The type of a parameter is the type of one value, which the last override for its database type
gives, else the built-in type, else the fallback; then brackets if the parameter takes a list; then
null, once, if the parameter may be null by itself or by the schema's declaration of its column. The
declaration is the last column of its name in the last table of its table's name. If there is none,
for whatever reason, the parameter alone decides. -/
theorem paramType_follows_lastEntries (catalog : Catalog) (overrides : List TypeOverride)
    (query : Query) (i : Nat) (param : Param) (hparam : query.params[i]? = some param) :
    ∃ declaration field base nullable,
      query.paramsType? catalog (.ofOverrides overrides) = some declaration ∧
      declaration.fields[i]? = some field ∧ field.name = Text.camelCase param.column.name ∧
      field.type = base ++ (if param.column.isSlice = true then "[]" else "") ++
        (if nullable = true then " | null" else "") ∧
      (∀ type, TypeTable.BaseType overrides param.column.sqlType type ↔ type = base) ∧
      (nullable = true ↔ param.column.notNull = false ∨
        ∃ declared, catalog.Declares param.column declared ∧ declared.notNull = false) ∧
      (param.column.table = none ∨ (∃ owner, param.column.table = some owner ∧
          ((∀ table ∈ catalog.tables, table.rel ≠ owner) ∨
            ∃ table, LastWith (·.rel = owner) catalog.tables table ∧
              ∀ c ∈ table.columns, c.name ≠ param.column.name)) →
        nullable = !param.column.notNull) := by
  have hne : query.params ≠ [] := by
    intro hnil
    simp [hnil] at hparam
  let types := TypeTable.ofOverrides overrides
  refine ⟨_, paramField catalog types param, types.scalar param.column.sqlType,
    allowsNull catalog param.column, if_neg hne, ?_, rfl, type_paramField catalog types param,
    fun type => TypeTable.baseType_iff, allowsNull_iff, ?_⟩
  · rw [List.getElem?_map, hparam, Option.map_some]
  · exact fun hnone => allowsNull_of_undeclared (Catalog.declaration?_eq_none_iff.mpr hnone)

def archivedSong : Table where
  rel := ⟨"song"⟩
  columns := [{ name := "street", notNull := true }, { name := "street" }]

/-- Songs in two schemas, of which the second counts. -/
def songArchive : Catalog where
  schemas := [
    { name := "main", tables := [⟨⟨"song"⟩, [{ name := "street", notNull := true }]⟩] },
    { name := "archive", tables := [archivedSong] }]

def someStreet : Column where
  name := "street"
  sqlType := "Straße"
  notNull := true
  isSlice := true
  table := some ⟨"song"⟩

def songsOfStreets : Query where
  name := "SongsOfStreets"
  command := .many
  text := "SELECT 1 FROM song WHERE street IN (/*SLICE:street*/?)"
  params := [⟨1, someStreet⟩]

/-- Both overrides are for the type of the parameter, as two letters are the capital of `ß`. -/
theorem paramType_follows_lastEntries_songsOfStreets :
    ∃ declaration field, songsOfStreets.paramsType? songArchive
        (.ofOverrides [⟨"straße", "Way"⟩, ⟨"STRASSE", "Street"⟩]) = some declaration ∧
      declaration.fields[0]? = some field ∧ field.type = "Street[] | null" := by
  obtain ⟨declaration, field, base, nullable,
      hdeclaration, hfield, -, htype, hbase, hnullable, -⟩ :=
    paramType_follows_lastEntries songArchive [⟨"straße", "Way"⟩, ⟨"STRASSE", "Street"⟩]
      songsOfStreets 0 _ rfl
  have hstreet : "Street" = base := (hbase "Street").mp <| .overridden ⟨"STRASSE", "Street"⟩
    ⟨[_], [], rfl, by decide +kernel, nofun⟩
  have hdeclares : songArchive.Declares someStreet { name := "street" } :=
    ⟨⟨"song"⟩, archivedSong, rfl, ⟨[_], [], rfl, rfl, nofun⟩, ⟨[_], [], rfl, rfl, nofun⟩⟩
  have hnull : nullable = true := hnullable.mpr (Or.inr ⟨_, hdeclares, rfl⟩)
  refine ⟨declaration, field, hdeclaration, hfield, ?_⟩
  rw [htype, ← hstreet, hnull]
  rfl

end TypedSql.Query
