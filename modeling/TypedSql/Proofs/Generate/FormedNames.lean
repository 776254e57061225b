import TypedSql.Proofs.Generate.Scope
import TypedSql.Proofs.Text.SnakeCase

/-!
What a database keeps apart by names in snake case, the generated files keep apart too: the model
types of its tables, the properties of a table and of a result, and the fields of the parameters.
-/

namespace TypedSql

open Script (Field TypeDeclaration model models)
open Text (IsIdentifier IsSnakeName camelCase pascalCase)

/-- There is a form for every name, and two forms are equal just where the two names are. -/
def KeepsApart (names forms : List String) : Prop :=
  forms.length = names.length ∧ ∀ i j : Nat, forms[i]? = forms[j]? ↔ names[i]? = names[j]?

theorem keepsApart_map {α : Type} {values : List α} {name form : α → String}
    (h : ∀ a ∈ values, ∀ b ∈ values, form a = form b ↔ name a = name b) :
    KeepsApart (values.map name) (values.map form) := by
  refine ⟨by rw [List.length_map, List.length_map], ?_⟩
  intro i j
  simp only [List.getElem?_map]
  cases ha : values[i]? with
  | none =>
      cases hb : values[j]? with
      | none => exact iff_of_true rfl rfl
      | some b => exact iff_of_false nofun nofun
  | some a =>
      cases hb : values[j]? with
      | none => exact iff_of_false nofun nofun
      | some b =>
          simp only [Option.map_some, Option.some.injEq]
          exact h a (List.mem_of_getElem? ha) b (List.mem_of_getElem? hb)

structure SnakeNames (catalog : Catalog) (query : Query) : Prop where
  tables : ∀ table ∈ catalog.tables, IsSnakeName table.rel.name
  columns : ∀ table ∈ catalog.tables, ∀ column ∈ table.columns, IsSnakeName column.name
  results : ∀ column ∈ query.columns, IsSnakeName column.name
  params : ∀ param ∈ query.params, IsSnakeName param.column.name

section Forms

variable {catalog : Catalog} {query : Query}

theorem keepsApart_properties {columns : List Column}
    (h : ∀ column ∈ columns, IsSnakeName column.name) :
    KeepsApart (columns.map Column.name) (columns.map Column.property) := by
  apply keepsApart_map
  intro a ha b hb
  exact (h a ha).camelCase_inj (h b hb)

theorem keepsApart_models (types : TypeTable)
    (h : ∀ table ∈ catalog.tables, IsSnakeName table.rel.name) :
    KeepsApart (catalog.tables.map fun table => table.rel.name)
      ((models catalog types).map TypeDeclaration.name) := by
  rw [models, List.map_map]
  apply keepsApart_map
  intro a ha b hb
  exact (h a ha).pascalCase_inj (h b hb)

theorem keepsApart_modelFields {table : Table} (types : TypeTable)
    (h : ∀ column ∈ table.columns, IsSnakeName column.name) :
    KeepsApart (table.columns.map Column.name) ((model types table).fields.map Field.name) := by
  rw [model, List.map_map]
  exact keepsApart_properties h

theorem keepsApart_rowFields (types : TypeTable)
    (h : ∀ column ∈ query.columns, IsSnakeName column.name) :
    KeepsApart (query.columns.map Column.name) ((query.rowType types).fields.map Field.name) := by
  rw [Query.rowType, List.map_map]
  exact keepsApart_properties h

theorem keepsApart_params (types : TypeTable)
    (h : ∀ param ∈ query.params, IsSnakeName param.column.name) :
    KeepsApart (query.params.map fun param => param.column.name)
      (fieldNames (query.paramsType? catalog types)) := by
  rw [fieldNames_paramsType?]
  apply keepsApart_map
  intro a ha b hb
  exact (h a ha).camelCase_inj (h b hb)

end Forms

/-- A name in snake case is determined by its camel form and by its Pascal form, which are
identifiers that begin with a small letter and with a capital. So for a catalog and a query with
such names, model types, properties and parameter fields have different names wherever the tables,
columns and parameters have. -/
theorem forms_keepApart :
    (∀ first second, IsSnakeName first → IsSnakeName second →
      camelCase first = camelCase second ∨ pascalCase first = pascalCase second → first = second) ∧
    (∀ name, IsSnakeName name →
      IsIdentifier Char.isLower (camelCase name) ∧ IsIdentifier Char.isUpper (pascalCase name)) ∧
    ∀ (catalog : Catalog) (types : TypeTable) (query : Query), SnakeNames catalog query →
      KeepsApart (catalog.tables.map fun table => table.rel.name)
        ((models catalog types).map TypeDeclaration.name) ∧
      (∀ table ∈ catalog.tables,
        KeepsApart (table.columns.map Column.name) ((model types table).fields.map Field.name)) ∧
      KeepsApart (query.columns.map Column.name) ((query.rowType types).fields.map Field.name) ∧
      KeepsApart (query.params.map fun param => param.column.name)
        (fieldNames (query.paramsType? catalog types)) := by
  refine ⟨?_, ?_, ?_⟩
  · intro first second hfirst hsecond hforms
    rcases hforms with hcamel | hpascal
    · exact (hfirst.camelCase_inj hsecond).mp hcamel
    · exact (hfirst.pascalCase_inj hsecond).mp hpascal
  · intro name hname
    exact ⟨hname.isIdentifier_camelCase, hname.isIdentifier_pascalCase⟩
  · intro catalog types query hnames
    refine ⟨keepsApart_models types hnames.tables, ?_, keepsApart_rowFields types hnames.results,
      keepsApart_params types hnames.params⟩
    intro table htable
    exact keepsApart_modelFields types (hnames.columns table htable)

def lists : Catalog where
  schemas := [
    { tables := [⟨⟨"song_list"⟩, [{ name := "song2_id" }, { name := "song2id" }]⟩] },
    { tables := [⟨⟨"songlist"⟩, []⟩] }]

def songsOfList : Query where
  name := "SongsOfList"
  command := .many
  text := "SELECT song2_id, song2id FROM song_list WHERE song2_id > ?1 AND song2id > ?2"
  params := [⟨1, { name := "song2_id" }⟩, ⟨2, { name := "song2id" }⟩]
  columns := [{ name := "song2_id" }, { name := "song2id" }]

theorem forms_keepApart_lists :
    camelCase "song2_id" ≠ camelCase "song2id" ∧
      IsIdentifier Char.isUpper (pascalCase "song2_id") ∧
      SnakeNames lists songsOfList ∧
      KeepsApart ["song_list", "songlist"] ["SongList", "Songlist"] ∧
      KeepsApart ["song2_id", "song2id"] ["song2Id", "song2id"] ∧
      fieldNames (songsOfList.paramsType? lists (.ofOverrides [])) = ["song2Id", "song2id"] := by
  obtain ⟨hinjective, hidentifiers, hapart⟩ := forms_keepApart
  have hfirst : IsSnakeName "song2_id" := by decide +kernel
  have hsecond : IsSnakeName "song2id" := by decide +kernel
  have hdifferent : camelCase "song2_id" ≠ camelCase "song2id" := by
    intro hcamel
    exact absurd (hinjective "song2_id" "song2id" hfirst hsecond (.inl hcamel)) (by decide)
  have hnames : SnakeNames lists songsOfList :=
    ⟨by decide +kernel, by decide +kernel, by decide +kernel, by decide +kernel⟩
  have hfields : fieldNames (songsOfList.paramsType? lists (.ofOverrides [])) =
      ["song2Id", "song2id"] := by decide +kernel
  have hmodels : (models lists (.ofOverrides [])).map TypeDeclaration.name =
      ["SongList", "Songlist"] := by decide +kernel
  obtain ⟨htables, -, -, hparams⟩ := hapart lists (.ofOverrides []) songsOfList hnames
  rw [hmodels] at htables
  rw [hfields] at hparams
  exact ⟨hdifferent, (hidentifiers "song2_id" hfirst).2, hnames, htables, hparams, hfields⟩

end TypedSql
