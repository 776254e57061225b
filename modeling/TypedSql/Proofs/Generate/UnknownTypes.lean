import TypedSql.Proofs.Catalog.LastEntry
import TypedSql.Proofs.Generate.Outcome
import TypedSql.Proofs.Query.Signature
import TypedSql.Proofs.Text.ByteOrder

/-!
Warnings about database types without a TypeScript type. They are given before anything is made,
from a list of columns of their own, while the types in the files are asked for table by table and
query by query, for embedded tables by way of the catalog's names. So there are two things to show:
every column whose type is asked for is in the list of the warnings, and the files depend on the
types of no other column.
-/

namespace TypedSql

namespace Traced

variable {α β : Type} {first : Traced α} {next : α → Traced β}

def Quiet (computation : Traced α) : Prop :=
  ∀ event ∈ computation.events, event.level ≠ .warn

theorem quiet_done (value : α) : (done value).Quiet :=
  nofun

theorem quiet_fail (cause : Cause) : (fail cause : Traced α).Quiet :=
  nofun

theorem quiet_reports {events : List Event} (h : ∀ event ∈ events, event.level ≠ .warn) :
    (reports events).Quiet :=
  h

theorem Quiet.andThen (hfirst : first.Quiet) (hnext : ∀ value, (next value).Quiet) :
    (first.andThen next).Quiet := by
  intro event hevent
  rw [Traced.andThen] at hevent
  cases hresult : first.result with
  | error failure =>
      rw [hresult] at hevent
      exact hfirst event hevent
  | ok value =>
      rw [hresult] at hevent
      rcases List.mem_append.mp hevent with hevent | hevent
      · exact hfirst event hevent
      · exact hnext value event hevent

theorem Quiet.during (hfirst : first.Quiet) (activity : Activity) :
    (first.during activity).Quiet :=
  hfirst

end Traced

section Quiet

variable (catalog : Catalog) (types : TypeTable) (query : Query)

theorem Query.quiet_aliasEmbed (text : List Char) (embed : Identifier) :
    (aliasEmbed catalog query text embed).Quiet := by
  rw [aliasEmbed]
  split
  · exact Traced.quiet_fail _
  · split
    · exact Traced.quiet_done _
    · dsimp only
      split
      · exact Traced.quiet_fail _
      · intro event hevent
        rw [List.mem_singleton.mp hevent, Event.level]
        decide

theorem Query.quiet_aliasAll (embeds : List Identifier) (text : List Char) :
    (aliasAll catalog query embeds text).Quiet := by
  induction embeds generalizing text with
  | nil => exact Traced.quiet_done text
  | cons embed rest ih =>
      rw [aliasAll]
      exact (quiet_aliasEmbed catalog query text embed).andThen ih

theorem Query.quiet_bind : (query.bind catalog types).Quiet := by
  have htext : (query.aliasEmbeds catalog).Quiet := by
    rw [aliasEmbeds]
    exact (quiet_aliasAll catalog query _ _).andThen fun _ => Traced.quiet_done _
  rw [Query.bind]
  refine (htext.during _).andThen fun text => ?_
  split
  · exact (Traced.quiet_fail _).during _
  · refine Traced.Quiet.andThen (Traced.quiet_reports fun event hevent => ?_) fun _ =>
      Traced.quiet_done _
    rw [List.mem_singleton.mp hevent, Binding.event, Event.level]
    decide

theorem quiet_bindAll (queries : List Query) : (bindAll catalog types queries).Quiet := by
  induction queries with
  | nil => exact Traced.quiet_done []
  | cons query rest ih =>
      rw [bindAll]
      exact (query.quiet_bind catalog types).andThen fun _ => ih.andThen fun _ =>
        Traced.quiet_done _

end Quiet

/-- The warnings of a run, whether it ends in files or not. -/
theorem warnings_generate (request : Request) :
    (generate request).events.filter (·.level = .warn) =
      (request.unknownTypes request.types).map .unknownType := by
  let warnings := (request.unknownTypes request.types).map Event.unknownType
  let making := (bindAll request.catalog request.types request.queries).andThen fun bindings =>
    (Traced.reports ((request.files bindings).map GeneratedFile.event)).andThen fun _ =>
      Traced.done (request.files bindings)
  have hwarnings : ∀ event ∈ warnings, event.level = .warn := by
    intro event hevent
    obtain ⟨sqlType, -, rfl⟩ := List.mem_map.mp hevent
    rfl
  have hmaking : making.Quiet := by
    refine (quiet_bindAll _ _ _).andThen fun bindings => ?_
    refine Traced.Quiet.andThen (Traced.quiet_reports fun event hevent => ?_) fun _ =>
      Traced.quiet_done _
    obtain ⟨file, -, rfl⟩ := List.mem_map.mp hevent
    rw [GeneratedFile.event, Event.level]
    decide
  change (warnings ++ making.events).filter (·.level = .warn) = warnings
  rw [List.filter_append, List.filter_eq_self.mpr (by simpa using hwarnings),
    List.filter_eq_nil_iff.mpr (by simpa [Traced.Quiet] using hmaking), List.append_nil]

/-- A database type is warned about if some column of the request has it, other than an embed, and
neither an override nor a built-in type is for it. -/
theorem Request.mem_unknownTypes {request : Request} {sqlType : String} :
    sqlType ∈ request.unknownTypes request.types ↔
      (∃ column ∈ request.typedColumns, column.sqlType = sqlType) ∧
        request.types.type? sqlType = none := by
  rw [unknownTypes, Text.mem_sortedDistinct, List.mem_filter, List.mem_map, TypeTable.knows,
    Bool.not_eq_true', Option.isSome_eq_false_iff, Option.isNone_iff_eq_none]

theorem Request.mem_typedColumns {request : Request} {column : Column} :
    column ∈ request.typedColumns ↔ (∃ table ∈ request.catalog.tables, column ∈ table.columns) ∨
      ∃ query ∈ request.queries, (∃ param ∈ query.params, param.column = column) ∨
        column ∈ query.columns ∧ column.embed? = none := by
  simp only [typedColumns, List.mem_append, List.mem_flatMap, List.mem_map, List.mem_filter,
    Option.isNone_iff_eq_none]

/-- The columns whose types are asked for while the files are made. -/
inductive Request.Asks (request : Request) : Column → Prop
  | model {table : Table} {column : Column} (htable : table ∈ request.catalog.tables)
      (hcolumn : column ∈ table.columns) : Asks request column
  | parameter {query : Query} {param : Param} (hquery : query ∈ request.queries)
      (hparam : param ∈ query.params) : Asks request param.column
  | row {query : Query} {column : Column} (hquery : query ∈ request.queries)
      (hrows : query.command ≠ .exec) (hcolumn : column ∈ query.columns)
      (hembed : column.embed? = none) : Asks request column
  | embedded {query : Query} {column : Column} {embed : Identifier} {table : Table} {c : Column}
      (hquery : query ∈ request.queries) (hraw : query.HasRaw) (hcolumn : column ∈ query.columns)
      (hembed : column.embed? = some embed) (htable : request.catalog.table? embed = some table)
      (hc : c ∈ table.columns) : Asks request c

/-- An embedded table belongs to the catalog, so its columns are no others. -/
theorem Request.Asks.mem_typedColumns {request : Request} {column : Column}
    (h : request.Asks column) : column ∈ request.typedColumns := by
  rw [Request.mem_typedColumns]
  cases h with
  | model htable hcolumn => exact Or.inl ⟨_, htable, hcolumn⟩
  | parameter hquery hparam => exact Or.inr ⟨_, hquery, Or.inl ⟨_, hparam, rfl⟩⟩
  | row hquery hrows hcolumn hembed => exact Or.inr ⟨_, hquery, Or.inr ⟨hcolumn, hembed⟩⟩
  | embedded hquery hraw hcolumn hembed htable hc =>
      exact Or.inl ⟨_, (Catalog.table?_eq_some htable).1, hc⟩

section Agreement

variable {catalog : Catalog} {types types' : TypeTable} {query : Query}

def TypeTable.AgreeAt (types types' : TypeTable) (column : Column) : Prop :=
  types.scalar column.sqlType = types'.scalar column.sqlType

theorem TypeTable.AgreeAt.column_eq {column : Column} (h : types.AgreeAt types' column) :
    types.column column = types'.column column := by
  rw [TypeTable.column, TypeTable.column, h]

theorem Script.modelsText_congr (banner : String)
    (h : ∀ table ∈ catalog.tables, ∀ column ∈ table.columns, types.AgreeAt types' column) :
    modelsText catalog types banner = modelsText catalog types' banner := by
  have hmodels : models catalog types = models catalog types' := by
    refine List.map_congr_left fun table htable => ?_
    have hfields : table.columns.map (modelField types) = table.columns.map (modelField types') :=
      List.map_congr_left fun column hcolumn => by
        rw [modelField, modelField, (h table htable column hcolumn).column_eq]
    rw [model, model, hfields]
  rw [modelsText, modelsText, hmodels]

namespace Query

theorem paramsType?_congr (h : ∀ param ∈ query.params, types.AgreeAt types' param.column) :
    query.paramsType? catalog types = query.paramsType? catalog types' := by
  have hfields : query.params.map (paramField catalog types) =
      query.params.map (paramField catalog types') :=
    List.map_congr_left fun param hparam => by
      rw [paramField, paramField, (h param hparam).column_eq]
  rw [paramsType?, paramsType?, hfields]

theorem rowType_congr
    (h : ∀ column ∈ query.columns, column.embed? = none → types.AgreeAt types' column) :
    query.rowType types = query.rowType types' := by
  have hfields : query.columns.map (rowField types) = query.columns.map (rowField types') := by
    refine List.map_congr_left fun column hcolumn => ?_
    rw [rowField, rowField]
    cases hembed : column.embed? with
    | none => rw [(h column hcolumn hembed).column_eq]
    | some embed => rfl
  rw [rowType, rowType, hfields]

theorem rawColumn_congr {column : Column}
    (hscalar : column.embed? = none → types.AgreeAt types' column)
    (hembed : ∀ embed table, column.embed? = some embed → catalog.table? embed = some table →
      ∀ c ∈ table.columns, types.AgreeAt types' c) :
    rawColumn catalog types query column = rawColumn catalog types' query column := by
  rw [rawColumn, rawColumn]
  cases hcolumn : column.embed? with
  | none =>
      dsimp only
      rw [(hscalar hcolumn).column_eq]
  | some embed =>
      cases htable : catalog.table? embed with
      | none => simp only [embeddedTable, htable, Except.map]
      | some table =>
          have hfields : (table.columns.map fun c : Column =>
              Script.Field.mk (c.embeddedName embed) (types.column c)) =
              table.columns.map fun c => ⟨c.embeddedName embed, types'.column c⟩ :=
            List.map_congr_left fun c hc => by
              rw [(hembed embed table hcolumn htable c hc).column_eq]
          simp only [embeddedTable, htable, Except.map, hfields]

theorem rawRow_congr
    (hscalar : ∀ column ∈ query.columns, column.embed? = none → types.AgreeAt types' column)
    (hembed : ∀ column ∈ query.columns, ∀ embed table, column.embed? = some embed →
      catalog.table? embed = some table → ∀ c ∈ table.columns, types.AgreeAt types' c) :
    query.rawRow catalog types = query.rawRow catalog types' := by
  rw [rawRow, rawRow, Traversal.mapM_congr fun column hcolumn =>
    rawColumn_congr (hscalar column hcolumn) (hembed column hcolumn)]

/-- A signature asks for the types of the parameters; for those of the result columns, if the query
has rows; and for those of the columns of embedded tables, if it has raw rows. -/
theorem signature_congr (hparams : ∀ param ∈ query.params, types.AgreeAt types' param.column)
    (hrow : query.command ≠ .exec → ∀ column ∈ query.columns, column.embed? = none →
      types.AgreeAt types' column)
    (hraw : query.HasRaw → ∀ column ∈ query.columns, ∀ embed table, column.embed? = some embed →
      catalog.table? embed = some table → ∀ c ∈ table.columns, types.AgreeAt types' c) :
    query.signature catalog types = query.signature catalog types' := by
  have hparams : query.paramsType? catalog types = query.paramsType? catalog types' :=
    paramsType?_congr hparams
  unfold Query.signature
  split
  · rw [execSignature, execSignature, hparams]
  · next hrows =>
      have hrowType : query.rowType types = query.rowType types' := rowType_congr (hrow hrows)
      have hsignature : query.rowSignature catalog types = query.rowSignature catalog types' := by
        funext raw mapping
        rw [rowSignature, rowSignature, hparams, hrowType]
      rw [hsignature]
      split
      · next hneeds => rw [rawRow_congr (hrow hrows) (hraw ⟨hrows, hneeds⟩)]
      · rfl

end Query

end Agreement

namespace Request

variable {request : Request} {types types' : TypeTable}

theorem signature_congr (h : ∀ column, request.Asks column → types.AgreeAt types' column)
    {query : Query} (hquery : query ∈ request.queries) :
    query.signature request.catalog types = query.signature request.catalog types' := by
  refine Query.signature_congr ?_ ?_ ?_
  · exact fun param hparam => h _ (.parameter hquery hparam)
  · exact fun hrows column hcolumn hembed => h _ (.row hquery hrows hcolumn hembed)
  · exact fun hraw column hcolumn embed table hembed htable c hc =>
      h _ (.embedded hquery hraw hcolumn hembed htable hc)

theorem bindAll_congr (h : ∀ column, request.Asks column → types.AgreeAt types' column)
    {queries : List Query} (hqueries : queries ⊆ request.queries) :
    bindAll request.catalog types queries = bindAll request.catalog types' queries := by
  induction queries with
  | nil => rfl
  | cons query rest ih =>
      obtain ⟨hquery, hrest⟩ := List.cons_subset.mp hqueries
      have hbind : query.bind request.catalog types = query.bind request.catalog types' := by
        rw [Query.bind, Query.bind, signature_congr h hquery]
      rw [bindAll, bindAll, hbind, ih hrest]

end Request

theorem result_generate (request : Request) : (generate request).result =
    (bindAll request.catalog request.types request.queries).result.map request.files := by
  change (Traced.andThen _ _).result = _
  rw [Traced.result_andThen]
  change (Traced.andThen _ _).result = _
  rw [Traced.result_andThen]
  cases (bindAll request.catalog request.types request.queries).result <;> rfl

/-- The files do not depend on the types of columns whose types are not asked for. -/
theorem result_generate_congr {request : Request} {overrides : List TypeOverride}
    (h : ∀ column, request.Asks column →
      request.types.AgreeAt (.ofOverrides overrides) column) :
    (generate { request with overrides := overrides }).result = (generate request).result := by
  let changed : Request := { request with overrides := overrides }
  have hbindings : bindAll request.catalog request.types request.queries =
      bindAll changed.catalog changed.types changed.queries :=
    Request.bindAll_congr h fun _ hquery => hquery
  have hfiles : request.files = changed.files := by
    funext bindings
    have hmodels := Script.modelsText_congr request.banner fun table htable column hcolumn =>
      h column (.model htable hcolumn)
    rw [Request.files, hmodels]
    rfl
  rw [result_generate, result_generate, hbindings, hfiles]

/-- The warnings of a run are one for each database type, in strictly increasing order of bytes,
that neither an override nor a built-in type is for, and that a column of the catalog, a parameter
or a result column that is no embed has. Wherever a type is asked for while the files are made and
the fallback is the answer, its database type is one of these; and there are no other places:
overrides that give the same types to the columns whose types are asked for give the same files. -/
theorem fallback_announced (request : Request) : ∃ warned : List String,
    (generate request).events.filter (·.level = .warn) = warned.map .unknownType ∧
    (warned.Pairwise fun first second => Utf8.encode first < Utf8.encode second) ∧
    (∀ sqlType, sqlType ∈ warned ↔
      (∃ column : Column, column.sqlType = sqlType ∧
        ((∃ table ∈ request.catalog.tables, column ∈ table.columns) ∨
          ∃ query ∈ request.queries, (∃ param ∈ query.params, param.column = column) ∨
            column ∈ query.columns ∧ column.embed? = none)) ∧
      (∀ o ∈ request.overrides, Text.upperCase o.sqlType ≠ Text.upperCase sqlType) ∧
      ∀ entry ∈ TypeTable.builtIn, entry.1 ≠ Text.upperCase sqlType) ∧
    (∀ column, request.Asks column → request.types.type? column.sqlType = none →
      column.sqlType ∈ warned) ∧
    (∀ overrides, (∀ column, request.Asks column →
        (TypeTable.ofOverrides overrides).scalar column.sqlType =
          request.types.scalar column.sqlType) →
      (generate { request with overrides := overrides }).result = (generate request).result) := by
  refine ⟨request.unknownTypes request.types, warnings_generate request, ?_, ?_, ?_, ?_⟩
  · exact (Text.pairwise_sortedDistinct _).imp Utf8.encode_lt_encode
  · intro sqlType
    rw [Request.mem_unknownTypes, Request.types, TypeTable.type?_eq_none_iff]
    simp only [Request.mem_typedColumns, and_comm (b := Column.sqlType _ = sqlType)]
  · intro column hasks hnone
    exact Request.mem_unknownTypes.mpr ⟨⟨column, hasks.mem_typedColumns, rfl⟩, hnone⟩
  · intro overrides h
    exact result_generate_congr fun column hasks => (h column hasks).symm

def track : Table where
  rel := ⟨"track"⟩
  columns := [{ name := "id", sqlType := "uuid", notNull := true }]

def listTracks : Query where
  name := "ListTracks"
  command := .many
  text := "SELECT track.id FROM track"
  columns := [{ name := "track", embedTable := some ⟨"track"⟩ }]

/-- Tracks as a whole, with an override for a type that no column has. -/
def trackRequest : Request where
  overrides := [⟨"MONEY", "Decimal"⟩]
  catalog := { schemas := [{ tables := [track] }] }
  queries := [listTracks]

/-- The key is asked for through the embed, and nobody asks for money. -/
theorem fallback_announced_trackRequest : ∃ warned : List String,
    (generate trackRequest).events.filter (·.level = .warn) = warned.map .unknownType ∧
      "uuid" ∈ warned ∧ "MONEY" ∉ warned ∧
      (generate { trackRequest with overrides := [] }).result = (generate trackRequest).result := by
  obtain ⟨warned, hevents, -, hwarned, hannounced, hfiles⟩ := fallback_announced trackRequest
  have hraw : listTracks.HasRaw := by decide +kernel
  have hkey : trackRequest.Asks { name := "id", sqlType := "uuid", notNull := true } :=
    .embedded (List.mem_cons_self ..) hraw (List.mem_cons_self ..) rfl rfl (List.mem_cons_self ..)
  refine ⟨warned, hevents, hannounced _ hkey (by decide +kernel), ?_, hfiles [] ?_⟩
  · intro hmoney
    exact ((hwarned "MONEY").mp hmoney).2.1 _ (List.mem_cons_self ..) rfl
  · intro column hasks
    have htyped : trackRequest.typedColumns = track.columns := by decide
    obtain rfl := List.mem_singleton.mp (htyped ▸ hasks.mem_typedColumns)
    decide +kernel

end TypedSql
