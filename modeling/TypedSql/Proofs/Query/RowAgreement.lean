import TypedSql.Proofs.Query.Alias
import TypedSql.Proofs.Traversal
import TypedSql.Query.Binding
import TypedSql.Script.Models

/-!
The public row, the raw row, the mapping between them, the model types and the aliases in the text
are made in separate passes over the columns of a query. They agree entry by entry, whatever the
widths of embedded tables are. What one column contributes is fixed by `rawColumn_cases`, and the
position of its raw fields by the widths of the columns before it.
-/

namespace TypedSql

open Script (Field TypeDeclaration)

namespace Mapping

def property : Mapping → String
  | .scalar property _ => property
  | .embed property _ => property

def rawNames : Mapping → List String
  | .scalar _ raw => [raw]
  | .embed _ fields => fields.map Prod.snd

/-- The raw fields at the position of an entry, where the entries share out the raw row in order. -/
def fieldsAt (raw : List Field) (mapping : List Mapping) (i : Nat) : List Field :=
  (raw.take ((mapping.take (i + 1)).flatMap rawNames).length).drop
    ((mapping.take i).flatMap rawNames).length

end Mapping

namespace Query

variable {catalog : Catalog} {types : TypeTable} {query : Query}

/-- What one column contributes to the raw row and to the mapping. -/
theorem rawColumn_cases {column : Column} {part : List Field × Mapping}
    (h : rawColumn catalog types query column = .ok part) :
    (column.embed? = none ∧
      part = ([⟨column.name, types.column column⟩], .scalar column.property column.name)) ∨
    ∃ embed table, column.embed? = some embed ∧ catalog.table? embed = some table ∧
      part = (table.columns.map fun c => ⟨c.embeddedName embed, types.column c⟩,
        .embed column.property
          (table.columns.map fun c => (c.property, c.embeddedName embed))) := by
  rw [rawColumn] at h
  cases hembed : column.embed? with
  | none =>
      rw [hembed] at h
      exact Or.inl ⟨rfl, (Except.ok.inj h).symm⟩
  | some embed =>
      rw [hembed] at h
      right
      cases htable : catalog.table? embed with
      | none =>
          simp only [embeddedTable, htable] at h
          cases h
      | some table =>
          simp only [embeddedTable, htable] at h
          exact ⟨embed, table, rfl, htable, (Except.ok.inj h).symm⟩

theorem property_rawColumn {column : Column} {part : List Field × Mapping}
    (h : rawColumn catalog types query column = .ok part) :
    part.2.property = column.property := by
  rcases rawColumn_cases h with ⟨-, rfl⟩ | ⟨embed, table, -, -, rfl⟩ <;> rfl

/-- The names that an entry reads are those of its raw fields. -/
theorem rawNames_rawColumn {column : Column} {part : List Field × Mapping}
    (h : rawColumn catalog types query column = .ok part) :
    part.2.rawNames = part.1.map Field.name := by
  rcases rawColumn_cases h with ⟨-, rfl⟩ | ⟨embed, table, -, -, rfl⟩
  · rfl
  · simp [Mapping.rawNames, Function.comp_def]

/-- Columns and what they contribute, in order. -/
def Parts (catalog : Catalog) (types : TypeTable) (query : Query) (columns : List Column)
    (parts : List (List Field × Mapping)) : Prop :=
  List.Forall₂ (fun column part => rawColumn catalog types query column = .ok part) columns parts

/-- A signature with a raw row comes from a query with rows that needs it. -/
theorem signature_eq_ok {signature : Signature} {raw : TypeDeclaration}
    (h : query.signature catalog types = .ok signature) (hraw : signature.rawRow = some raw) :
    ∃ mapping, query.rawRow catalog types = .ok (raw, mapping) ∧
      signature = query.rowSignature catalog types (some raw) mapping := by
  unfold Query.signature at h
  split at h
  · obtain rfl := Except.ok.inj h
    cases hraw
  · split at h
    · cases hrow : query.rawRow catalog types with
      | error cause =>
          rw [hrow] at h
          cases h
      | ok result =>
          rw [hrow] at h
          obtain rfl := Except.ok.inj h
          obtain rfl := Option.some.inj hraw
          exact ⟨result.2, rfl, rfl⟩
    · obtain rfl := Except.ok.inj h
      cases hraw

/-- The raw row and the mapping are made of what all columns contribute. -/
theorem rawRow_parts {raw : TypeDeclaration} {mapping : List Mapping}
    (h : query.rawRow catalog types = .ok (raw, mapping)) :
    ∃ parts, Parts catalog types query query.columns parts ∧ raw.fields = parts.flatMap Prod.fst ∧
      mapping = parts.map Prod.snd := by
  obtain ⟨parts, hparts, hrow⟩ := Traversal.map_eq_ok.mp h
  obtain ⟨rfl, rfl⟩ := Prod.mk.inj hrow
  exact ⟨parts, Traversal.mapM_eq_ok.mp hparts, rfl, rfl⟩

/-- A binding has the aliased text and the signature of its query. -/
theorem bind_eq_ok {binding : Binding} (h : (query.bind catalog types).result = .ok binding) :
    (query.aliasEmbeds catalog).result = .ok binding.text ∧
      query.signature catalog types = .ok binding.signature := by
  unfold Query.bind at h
  change (((query.aliasEmbeds catalog).during (.aliasQuery query.name)).andThen _).result = _ at h
  rw [Traced.result_andThen] at h
  cases htext : (query.aliasEmbeds catalog).result with
  | error failure =>
      simp only [Traced.during, htext] at h
      cases h
  | ok text =>
      simp only [Traced.during, htext] at h
      cases hsignature : query.signature catalog types with
      | error cause =>
          rw [hsignature] at h
          cases h
      | ok signature =>
          rw [hsignature] at h
          obtain rfl := Except.ok.inj h
          exact ⟨rfl, rfl⟩

section Parts

variable {columns : List Column} {parts : List (List Field × Mapping)}

theorem Parts.map_property (h : Parts catalog types query columns parts) :
    (parts.map Prod.snd).map Mapping.property = columns.map Column.property := by
  induction h with
  | nil => rfl
  | cons hpart _ ih =>
      rw [List.map_cons, List.map_cons, List.map_cons, ih, property_rawColumn hpart]

theorem Parts.flatMap_rawNames (h : Parts catalog types query columns parts) :
    (parts.map Prod.snd).flatMap Mapping.rawNames = (parts.flatMap Prod.fst).map Field.name := by
  induction h with
  | nil => rfl
  | cons hpart _ ih =>
      rw [List.map_cons, List.flatMap_cons, List.flatMap_cons, List.map_append, ih,
        rawNames_rawColumn hpart]

/-- The first entries read as many raw fields as the first columns contribute. -/
theorem Parts.length_take (h : Parts catalog types query columns parts) (i : Nat) :
    (((parts.map Prod.snd).take i).flatMap Mapping.rawNames).length =
      ((parts.take i).flatMap Prod.fst).length := by
  have htake : Parts catalog types query (columns.take i) (parts.take i) := List.forall₂_take i h
  rw [← List.map_take, htake.flatMap_rawNames, List.length_map]

/-- At the position of an entry are the raw fields of its column. -/
theorem Parts.fieldsAt_eq (h : Parts catalog types query columns parts) {i : Nat}
    {part : List Field × Mapping} (hpart : parts[i]? = some part) :
    Mapping.fieldsAt (parts.flatMap Prod.fst) (parts.map Prod.snd) i = part.1 := by
  have hfirst : parts.take (i + 1) = parts.take i ++ [part] := by
    rw [List.take_add_one, hpart]
    rfl
  have hsplit : parts.flatMap Prod.fst =
      (parts.take (i + 1)).flatMap Prod.fst ++ (parts.drop (i + 1)).flatMap Prod.fst := by
    rw [← List.flatMap_append, List.take_append_drop]
  rw [Mapping.fieldsAt, h.length_take, h.length_take, hsplit, List.take_left, hfirst,
    List.flatMap_append, List.drop_left, List.flatMap_singleton]

/-- An entry of the mapping comes from the column at its position. -/
theorem Parts.getElem? (h : Parts catalog types query columns parts) {i : Nat} {entry : Mapping}
    (hentry : (parts.map Prod.snd)[i]? = some entry) :
    ∃ column fields, columns[i]? = some column ∧ parts[i]? = some (fields, entry) ∧
      rawColumn catalog types query column = .ok (fields, entry) := by
  rw [List.getElem?_map, Option.map_eq_some_iff] at hentry
  obtain ⟨⟨fields, entry'⟩, hpart, rfl⟩ := hentry
  obtain ⟨hi, hget⟩ := List.getElem?_eq_some_iff.mp hpart
  have hi' : i < columns.length := by rwa [h.length_eq]
  refine ⟨columns[i], fields, List.getElem?_eq_getElem hi', hpart, ?_⟩
  have hcolumn := h.get hi' hi
  rwa [List.get_eq_getElem, List.get_eq_getElem, hget] at hcolumn

end Parts

def listWithAliases (embed : Identifier) (columns : List Column) (names : List String) : String :=
  String.intercalate ", "
    (List.zipWith (fun column name => reference embed column ++ " AS " ++ name) columns names)

theorem listWithAliases_embeddedName (embed : Identifier) (columns : List Column) :
    listWithAliases embed columns (columns.map (Column.embeddedName embed)) =
      aliasedList embed columns := by
  rw [listWithAliases, List.zipWith_map_right, List.zipWith_self]
  rfl

/-- The public row, the raw row, the mapping, the model types and the aliases agree. Every column
has one entry in the mapping, which makes the property of its public field. The entries read the raw
row from one end to the other. The raw field of a scalar entry has the type of the public field. The
raw fields of an embedded table have, under the properties that they become, the types of the
table's model type, which is the type of the public field and is imported; their names are those of
the table's columns in order, and the names that the text gives to the columns. -/
theorem row_agreement (catalog : Catalog) (types : TypeTable) (query : Query) (binding : Binding)
    (raw : TypeDeclaration) (hbind : (query.bind catalog types).result = .ok binding)
    (hraw : binding.signature.rawRow = some raw) :
    ∃ row, binding.signature.row = some row ∧
      binding.signature.mapping.length = query.columns.length ∧
      binding.signature.mapping.map Mapping.property = row.fields.map Field.name ∧
      binding.signature.mapping.flatMap Mapping.rawNames = raw.fields.map Field.name ∧
      (∀ i property name, binding.signature.mapping[i]? = some (.scalar property name) →
        ∃ type, row.fields[i]? = some ⟨property, type⟩ ∧
          Mapping.fieldsAt raw.fields binding.signature.mapping i = [⟨name, type⟩]) ∧
      (∀ i property fields, binding.signature.mapping[i]? = some (.embed property fields) →
        ∃ column embed table, query.columns[i]? = some column ∧ column.embed? = some embed ∧
          catalog.table? embed = some table ∧
          Script.model types table ∈ Script.models catalog types ∧
          (Mapping.fieldsAt raw.fields binding.signature.mapping i).map Field.name =
            fields.map Prod.snd ∧
          List.zipWith (fun pair field => Script.Field.mk pair.1 field.type) fields
            (Mapping.fieldsAt raw.fields binding.signature.mapping i) =
              (Script.model types table).fields ∧
          row.fields[i]? = some ⟨property, (Script.model types table).name⟩ ∧
          (Script.model types table).name ∈ binding.signature.models ∧
          fields.map Prod.snd = table.columns.map (Column.embeddedName embed) ∧
          (table.columns ≠ [] → ∃ done rest text before after,
            query.distinctEmbeds = done ++ embed :: rest ∧
            (aliasAll catalog query done query.text.toList).result = .ok text ∧
            Text.cut? (referenceList embed table.columns).toList text = some (before, after) ∧
            (aliasAll catalog query rest
              (before ++ ((listWithAliases embed table.columns (fields.map Prod.snd)).toList ++
                after))).result = .ok binding.text.toList)) := by
  obtain ⟨htext, hsignature⟩ := bind_eq_ok hbind
  obtain ⟨mapping, hrow, hsig⟩ := signature_eq_ok hsignature hraw
  obtain ⟨parts, hparts, hfields, rfl⟩ := rawRow_parts hrow
  rw [hsig, hfields]
  refine ⟨query.rowType types, rfl, ?_, ?_, ?_, ?_, ?_⟩
  · exact (List.length_map _).trans hparts.length_eq.symm
  · change (parts.map Prod.snd).map Mapping.property = _
    rw [hparts.map_property, rowType, List.map_map]
    rfl
  · exact hparts.flatMap_rawNames
  -- A property of one raw field.
  · intro i property name hentry
    obtain ⟨column, fields, hcolumn, hpart, hraw⟩ := hparts.getElem? hentry
    rcases rawColumn_cases hraw with ⟨hembed, heq⟩ | ⟨embed, table, -, -, heq⟩
    · obtain ⟨rfl, hsame⟩ := Prod.mk.inj heq
      obtain ⟨rfl, rfl⟩ := Mapping.scalar.inj hsame
      refine ⟨types.column column, ?_, hparts.fieldsAt_eq hpart⟩
      rw [rowType, List.getElem?_map, hcolumn, Option.map_some, rowField, hembed]
    · cases (Prod.mk.inj heq).2
  -- An embedded table: its fields, its model type, and its aliases in the text.
  · intro i property fields hentry
    obtain ⟨column, rawFields, hcolumn, hpart, hraw⟩ := hparts.getElem? hentry
    rcases rawColumn_cases hraw with ⟨-, heq⟩ | ⟨embed, table, hembed, htable, heq⟩
    · cases (Prod.mk.inj heq).2
    · obtain ⟨rfl, hsame⟩ := Prod.mk.inj heq
      obtain ⟨rfl, rfl⟩ := Mapping.embed.inj hsame
      obtain ⟨hmem, hname⟩ := Catalog.table?_eq_some htable
      have hembeds : embed ∈ query.embeds :=
        List.mem_filterMap.mpr ⟨column, List.mem_of_getElem? hcolumn, hembed⟩
      have hat := hparts.fieldsAt_eq hpart
      refine ⟨column, embed, table, hcolumn, hembed, htable, ?_, ?_, ?_, ?_, ?_, ?_, ?_⟩
      · exact List.mem_map_of_mem hmem
      · change (Mapping.fieldsAt _ (parts.map Prod.snd) i).map Field.name = _
        rw [hat]
        simp [Function.comp_def]
      · change List.zipWith _ _ (Mapping.fieldsAt _ (parts.map Prod.snd) i) = _
        rw [hat, List.zipWith_map, List.zipWith_self]
        rfl
      · rw [rowType, List.getElem?_map, hcolumn, Option.map_some, rowField, hembed, Script.model,
          hname]
      · rw [Script.model, hname]
        exact Text.mem_sortedDistinct.mpr (List.mem_map_of_mem hembeds)
      · simp [Function.comp_def]
      · intro hcolumns
        have hnames : (table.columns.map fun c => (c.property, c.embeddedName embed)).map Prod.snd =
            table.columns.map (Column.embeddedName embed) := by simp [Function.comp_def]
        rw [hnames, listWithAliases_embeddedName]
        exact exists_aliasedList htext hembeds htable hcolumns

def songPlays : Query where
  name := "SongPlays"
  command := .many
  text := "SELECT play_count, song.id, song.title FROM song"
  columns := [{ name := "play_count", sqlType := "INTEGER", notNull := true },
    { name := "song", embedTable := some ⟨"song"⟩ }]

theorem row_agreement_songPlays :
    ∃ binding raw row, (songPlays.bind songs (.ofOverrides [])).result = .ok binding ∧
      binding.signature.rawRow = some raw ∧ binding.signature.row = some row ∧
      raw.fields.map Field.name = ["play_count", "song_id", "song_title"] ∧
      row.fields.map Field.name = ["playCount", "song"] := by
  have hbound : ((songPlays.bind songs (.ofOverrides [])).result.toOption.map fun binding =>
      (binding.signature.rawRow.isSome, binding.signature.mapping)) =
        some (true, [.scalar "playCount" "play_count",
          .embed "song" [("id", "song_id"), ("title", "song_title")]]) := by decide +kernel
  cases hbind : (songPlays.bind songs (.ofOverrides [])).result with
  | error failure =>
      rw [hbind] at hbound
      cases hbound
  | ok binding =>
      rw [hbind] at hbound
      obtain ⟨hraw, hmapping⟩ := Prod.mk.inj (Option.some.inj hbound)
      obtain ⟨raw, hraw⟩ := Option.isSome_iff_exists.mp hraw
      obtain ⟨row, hrow, -, hproperties, hnames, -⟩ :=
        row_agreement songs (.ofOverrides []) songPlays binding raw hbind hraw
      rw [hmapping] at hproperties hnames
      exact ⟨binding, raw, row, rfl, hraw, hrow, hnames.symm, hproperties.symm⟩

end Query

end TypedSql
