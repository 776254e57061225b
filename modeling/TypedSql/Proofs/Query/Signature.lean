import TypedSql.Proofs.Query.RowAgreement
import TypedSql.Script.Querier

/-!
What the signature of a query holds, by command and by whether a raw row is needed. A raw row is
needed where some column is embedded or renamed; the types of the call, the result and the mapping
follow from that.
-/

namespace TypedSql

open Script (Field TypeDeclaration declarations)

/-- An embed without a name embeds nothing. -/
theorem Column.embed?_eq_some_iff {column : Column} {table : Identifier} :
    column.embed? = some table ↔ column.embedTable = some table ∧ table.name ≠ "" := by
  rw [Column.embed?, Option.filter_eq_some_iff, bne_iff_ne]

namespace Query

/-- Whether the function of a query reads raw rows. -/
def HasRaw (query : Query) : Prop :=
  query.command ≠ .exec ∧ query.needsRaw = true

instance (query : Query) : Decidable query.HasRaw :=
  inferInstanceAs (Decidable (_ ∧ _))

def typeNames (query : Query) : List String :=
  (if query.params = [] then [] else [query.paramsTypeName]) ++
  (if query.command = .exec then [] else [query.rowTypeName]) ++
  (if query.HasRaw then [query.rawRowTypeName] else [])

def modelNames (query : Query) : List String :=
  if query.command = .exec then [] else query.embeds.map Identifier.modelName

variable {catalog : Catalog} {types : TypeTable} {query : Query} {signature : Signature}

/-- A query without rows, with raw rows, or with rows that are public as the database gives them. -/
theorem signature_cases (h : query.signature catalog types = .ok signature) :
    (query.command = .exec ∧ signature = query.execSignature catalog types) ∨
    (query.HasRaw ∧ ∃ raw mapping, query.rawRow catalog types = .ok (raw, mapping) ∧
      signature = query.rowSignature catalog types (some raw) mapping) ∨
    (query.command ≠ .exec ∧ query.needsRaw = false ∧
      signature = query.rowSignature catalog types none []) := by
  unfold Query.signature at h
  split at h
  · next hexec => exact Or.inl ⟨hexec, (Except.ok.inj h).symm⟩
  · next hrows =>
      split at h
      · next hneeds =>
          cases hraw : query.rawRow catalog types with
          | error cause =>
              rw [hraw] at h
              cases h
          | ok result =>
              rw [hraw] at h
              exact Or.inr (Or.inl ⟨⟨hrows, hneeds⟩, result.1, result.2, rfl,
                (Except.ok.inj h).symm⟩)
      · next hneeds =>
          exact Or.inr (Or.inr ⟨hrows, Bool.eq_false_iff.mpr hneeds, (Except.ok.inj h).symm⟩)

theorem params_signature (h : query.signature catalog types = .ok signature) :
    signature.params = query.paramsType? catalog types := by
  rcases signature_cases h with ⟨-, rfl⟩ | ⟨-, raw, mapping, -, rfl⟩ | ⟨-, -, rfl⟩
  · rfl
  · rfl
  · rfl

theorem row_signature (h : query.signature catalog types = .ok signature) :
    signature.row = if query.command = .exec then none else some (query.rowType types) := by
  rcases signature_cases h with ⟨hexec, rfl⟩ | ⟨hraw, raw, mapping, -, rfl⟩ | ⟨hrows, -, rfl⟩
  · rw [if_pos hexec]
    rfl
  · rw [if_neg hraw.1]
    rfl
  · rw [if_neg hrows]
    rfl

theorem name_rawRow {raw : TypeDeclaration} {mapping : List Mapping}
    (h : query.rawRow catalog types = .ok (raw, mapping)) : raw.name = query.rawRowTypeName := by
  obtain ⟨parts, -, hrow⟩ := Traversal.map_eq_ok.mp h
  rw [← (Prod.mk.inj hrow).1]

theorem map_name_rawRow (h : query.signature catalog types = .ok signature) :
    signature.rawRow.map TypeDeclaration.name =
      if query.HasRaw then some query.rawRowTypeName else none := by
  rcases signature_cases h with ⟨hexec, rfl⟩ | ⟨hraw, raw, mapping, hrow, rfl⟩ | ⟨-, hneeds, rfl⟩
  · rw [if_neg fun hraw => hraw.1 hexec]
    rfl
  · rw [if_pos hraw]
    exact congrArg some (name_rawRow hrow)
  · rw [if_neg fun hraw => Bool.eq_false_iff.mp hneeds hraw.2]
    rfl

theorem returns_signature (h : query.signature catalog types = .ok signature) :
    signature.returns = returnType query.command query.rowTypeName := by
  rcases signature_cases h with ⟨hexec, rfl⟩ | ⟨-, raw, mapping, -, rfl⟩ | ⟨-, -, rfl⟩
  · rw [hexec]
    rfl
  · rfl
  · rfl

theorem call_signature (h : query.signature catalog types = .ok signature) :
    signature.call = rowCall query.command
      ((signature.rawRow.map TypeDeclaration.name).getD query.rowTypeName) := by
  rcases signature_cases h with ⟨hexec, rfl⟩ | ⟨-, raw, mapping, -, rfl⟩ | ⟨-, -, rfl⟩
  · rw [hexec]
    rfl
  · rfl
  · rfl

theorem models_signature (h : query.signature catalog types = .ok signature) :
    signature.models = Text.sortedDistinct query.modelNames := by
  rcases signature_cases h with ⟨hexec, rfl⟩ | ⟨hraw, raw, mapping, -, rfl⟩ | ⟨hrows, -, rfl⟩
  · rw [modelNames, if_pos hexec]
    rfl
  · rw [modelNames, if_neg hraw.1]
    rfl
  · rw [modelNames, if_neg hrows]
    rfl

theorem map_name_paramsType? : (query.paramsType? catalog types).toList.map TypeDeclaration.name =
    if query.params = [] then [] else [query.paramsTypeName] := by
  unfold paramsType?
  split
  · rfl
  · rfl

theorem map_name_declarations (h : query.signature catalog types = .ok signature) :
    (declarations signature).map TypeDeclaration.name = query.typeNames := by
  have hraw := congrArg Option.toList (map_name_rawRow h)
  rw [Option.toList_map] at hraw
  rw [declarations, List.map_append, List.map_append, params_signature h, map_name_paramsType?,
    row_signature h, hraw, typeNames, apply_ite Option.toList, apply_ite Option.toList,
    apply_ite (List.map TypeDeclaration.name)]
  rfl

theorem needsRaw_iff : query.needsRaw = true ↔ ∃ column ∈ query.columns,
    (∃ table, column.embedTable = some table ∧ table.name ≠ "") ∨
      column.property ≠ column.name := by
  rw [needsRaw, List.any_eq_true]
  refine exists_congr fun column => and_congr_right fun _ => ?_
  rw [Bool.or_eq_true, bne_iff_ne, Option.isSome_iff_exists, or_comm]
  simp only [Column.embed?_eq_some_iff]

/-- Without a raw row, the columns keep their names and none is embedded. -/
theorem fields_rowType (hneeds : query.needsRaw = false) : (query.rowType types).fields =
    query.columns.map fun column => ⟨column.name, types.column column⟩ := by
  refine List.map_congr_left fun column hcolumn => ?_
  have hkept := List.any_eq_false.mp hneeds column hcolumn
  rw [Bool.or_eq_true, not_or, bne_iff_ne, not_not, Option.isSome_iff_ne_none, not_not] at hkept
  rw [rowField, hkept.1, hkept.2]

theorem isSome_rawRow (h : query.signature catalog types = .ok signature) :
    signature.rawRow.isSome = true ↔ query.HasRaw := by
  rw [← Option.isSome_map, map_name_rawRow h]
  split
  · next hraw => exact iff_of_true rfl hraw
  · next hraw => exact iff_of_false Bool.false_ne_true hraw

theorem rows_of_rawRow_eq_none (h : query.signature catalog types = .ok signature)
    (hraw : signature.rawRow = none) : signature.mapping = [] ∧
      ∀ row, signature.row = some row → row.fields =
        query.columns.map fun column => ⟨column.name, types.column column⟩ := by
  rcases signature_cases h with ⟨-, rfl⟩ | ⟨-, raw, mapping, -, rfl⟩ | ⟨-, hneeds, rfl⟩
  · exact ⟨rfl, nofun⟩
  · cases hraw
  · refine ⟨rfl, fun row hrow => ?_⟩
    rw [← Option.some.inj hrow, fields_rowType hneeds]

theorem mem_models (h : query.signature catalog types = .ok signature) {model : String} :
    model ∈ signature.models ↔ query.command ≠ .exec ∧ ∃ column ∈ query.columns, ∃ table,
      column.embedTable = some table ∧ table.name ≠ "" ∧ model = table.modelName := by
  rw [models_signature h, Text.mem_sortedDistinct, modelNames]
  split
  · next hexec => exact iff_of_false List.not_mem_nil fun h => h.1 hexec
  · next hrows =>
      rw [and_iff_right hrows, embeds, List.mem_map]
      simp only [List.mem_filterMap, Column.embed?_eq_some_iff, eq_comm (a := model)]
      constructor
      · rintro ⟨table, ⟨column, hcolumn, htable, hname⟩, hmodel⟩
        exact ⟨column, hcolumn, table, htable, hname, hmodel⟩
      · rintro ⟨column, hcolumn, table, htable, hname, hmodel⟩
        exact ⟨table, ⟨column, hcolumn, htable, hname⟩, hmodel⟩

/-- A query with rows has a public row type. It has a raw row type if, besides, some column is
embedded or is not its own camel form. Otherwise there is no mapping, and the fields of the public
row are the columns as the database gives them back. The statement is run for its rows in the way
of the command, with the raw row type if there is one and else the public one, or null for at most
one row; the caller always waits for the public one. The model types are those of the embeds. -/
theorem signature_follows_columns (catalog : Catalog) (overrides : List TypeOverride)
    (query : Query) (signature : Signature)
    (h : query.signature catalog (.ofOverrides overrides) = .ok signature) :
    (signature.row.isSome = true ↔ query.command = .one ∨ query.command = .many) ∧
    (signature.rawRow.isSome = true ↔ (query.command = .one ∨ query.command = .many) ∧
      ∃ column ∈ query.columns, (∃ table, column.embedTable = some table ∧ table.name ≠ "") ∨
        Text.camelCase column.name ≠ column.name) ∧
    (signature.rawRow = none → signature.mapping = [] ∧
      ∀ row, signature.row = some row → row.fields = query.columns.map fun column =>
        ⟨column.name, (TypeTable.ofOverrides overrides).column column⟩) ∧
    (∀ row, signature.row = some row → row.name = query.name ++ "Row") ∧
    (∀ raw, signature.rawRow = some raw → raw.name = "Raw" ++ query.name ++ "Row") ∧
    (query.command = .exec → signature.call = .run ∧ signature.returns = "D1Result") ∧
    (query.command = .one → ∃ row, signature.row = some row ∧
      signature.call = .first ((signature.rawRow.getD row).name ++ " | null") ∧
      signature.returns = row.name ++ " | null") ∧
    (query.command = .many → ∃ row, signature.row = some row ∧
      signature.call = .all (signature.rawRow.getD row).name ∧
      signature.returns = "D1Result<" ++ row.name ++ ">") ∧
    signature.models.Pairwise (· < ·) ∧
    ∀ model, model ∈ signature.models ↔ query.command ≠ .exec ∧ ∃ column ∈ query.columns,
      ∃ table, column.embedTable = some table ∧ table.name ≠ "" ∧
        model = Text.pascalCase table.name := by
  have hrows : query.command ≠ .exec ↔ query.command = .one ∨ query.command = .many := by
    cases query.command <;> simp
  have hrow := row_signature h
  have hreturns := returns_signature h
  let publicRow := query.rowType (.ofOverrides overrides)
  have hcall : signature.call = rowCall query.command (signature.rawRow.getD publicRow).name :=
    (call_signature h).trans (congrArg _ (Option.getD_map TypeDeclaration.name publicRow _))
  refine ⟨?_, ?_, rows_of_rawRow_eq_none h, ?_, ?_, ?_, ?_, ?_, ?_, fun model => mem_models h⟩
  · rw [hrow, ← hrows]
    split
    · next hexec => exact iff_of_false Bool.false_ne_true fun hne => hne hexec
    · next hne => exact iff_of_true rfl hne
  · rw [isSome_rawRow h, HasRaw, needsRaw_iff, hrows]
    rfl
  · intro row hsome
    rw [hrow] at hsome
    split at hsome
    · cases hsome
    · rw [← Option.some.inj hsome]
      rfl
  · intro raw hsome
    have hname := map_name_rawRow h
    rw [hsome] at hname
    split at hname
    · exact Option.some.inj hname
    · cases hname
  · intro hexec
    rw [hcall, hreturns, hexec]
    exact ⟨rfl, rfl⟩
  · intro hone
    rw [hone] at hrow hcall hreturns
    exact ⟨_, hrow, hcall, hreturns⟩
  · intro hmany
    rw [hmany] at hrow hcall hreturns
    exact ⟨_, hrow, hcall, hreturns⟩
  · rw [models_signature h]
    exact Text.pairwise_sortedDistinct _

theorem signature_follows_columns_songPlays :
    ∃ signature row raw, songPlays.signature songs (.ofOverrides []) = .ok signature ∧
      signature.row = some row ∧ signature.rawRow = some raw ∧
      signature.call = .all "RawSongPlaysRow" ∧ signature.returns = "D1Result<SongPlaysRow>" ∧
      "Song" ∈ signature.models := by
  have hsome : ∃ signature, songPlays.signature songs (.ofOverrides []) = .ok signature :=
    ⟨_, rfl⟩
  obtain ⟨signature, h⟩ := hsome
  obtain ⟨-, hraw, -, hrowName, hrawName, -, -, hmany, -, hmodels⟩ :=
    signature_follows_columns songs [] songPlays signature h
  obtain ⟨row, hrow, hcall, hreturns⟩ := hmany rfl
  have hembed : { name := "song", embedTable := some ⟨"song"⟩ } ∈ songPlays.columns := by decide
  obtain ⟨raw, hraw⟩ := Option.isSome_iff_exists.mp
    (hraw.mpr ⟨Or.inr rfl, _, hembed, Or.inl ⟨_, rfl, by decide⟩⟩)
  rw [hraw, Option.getD_some, hrawName raw hraw] at hcall
  rw [hrowName row hrow] at hreturns
  refine ⟨signature, row, raw, h, hrow, hraw, hcall, hreturns, ?_⟩
  exact (hmodels "Song").mpr ⟨by decide, _, hembed, _, rfl, by decide, by decide +kernel⟩

end Query

end TypedSql
