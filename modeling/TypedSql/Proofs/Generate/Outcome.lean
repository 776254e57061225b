import TypedSql.Generate
import TypedSql.Proofs.Query.RowAgreement

/-!
When generation succeeds, and which failure it ends with. A query is bound in two passes, which look
embedded tables up on their own: one puts aliases into the text, the other works out the signature.
The second pass asks for no table that the first has not found, so only the first can fail. A run
therefore fails with the first embed, of the first query, that cannot be given aliases.
-/

namespace TypedSql

namespace Traced

variable {α β : Type} {first : Traced α} {next : α → Traced β}

theorem andThen_ok {value : β} : (first.andThen next).result = .ok value ↔
    ∃ middle, first.result = .ok middle ∧ (next middle).result = .ok value := by
  rw [result_andThen]
  cases first.result <;> simp [Except.bind]

theorem andThen_error {failure : Failure} : (first.andThen next).result = .error failure ↔
    first.result = .error failure ∨
      ∃ middle, first.result = .ok middle ∧ (next middle).result = .error failure := by
  rw [result_andThen]
  cases first.result <;> simp [Except.bind]

theorem during_ok {activity : Activity} {value : α} :
    (first.during activity).result = .ok value ↔ first.result = .ok value := by
  rw [during]
  cases first.result <;> simp [Except.mapError]

theorem during_error {activity : Activity} {failure : Failure} :
    (first.during activity).result = .error failure ↔
      ∃ inner, first.result = .error inner ∧ failure = inner.during activity := by
  rw [during]
  cases first.result <;> simp [Except.mapError, eq_comm]

end Traced

namespace Query

variable {catalog : Catalog} {types : TypeTable} {query : Query}

/-- Where all embedded tables are found, there is a signature. -/
theorem exists_signature (htables : ∀ embed ∈ query.embeds,
    ∃ table, catalog.table? embed = some table) :
    ∃ signature, query.signature catalog types = .ok signature := by
  have hparts : ∃ parts, query.columns.mapM (rawColumn catalog types query) = .ok parts := by
    apply Traversal.exists_mapM_eq_ok.mpr
    intro column hcolumn
    rw [rawColumn]
    cases hembed : column.embed? with
    | none => exact ⟨_, rfl⟩
    | some embed =>
        obtain ⟨table, htable⟩ := htables embed (List.mem_filterMap.mpr ⟨column, hcolumn, hembed⟩)
        simp only [embeddedTable, htable]
        exact ⟨_, rfl⟩
  obtain ⟨parts, hparts⟩ := hparts
  unfold Query.signature
  split
  · exact ⟨_, rfl⟩
  · split
    · rw [rawRow, hparts]
      exact ⟨_, rfl⟩
    · exact ⟨_, rfl⟩

/-- Every table that the signature asks for was found when aliases were given. -/
theorem exists_signature_of_aliasEmbeds {text : String}
    (h : (query.aliasEmbeds catalog).result = .ok text) :
    ∃ signature, query.signature catalog types = .ok signature := by
  apply exists_signature
  intro embed hembed
  exact (result_aliasAll.mp (result_aliasEmbeds.mp h)).1 embed (mem_distinctEmbeds.mpr hembed)

def binding (query : Query) (text : String) (signature : Signature) : Binding :=
  ⟨query, text, signature, query.bounds, query.slicePlan?⟩

theorem bind_ok {binding : Binding} :
    (query.bind catalog types).result = .ok binding ↔
      ∃ text signature, (query.aliasEmbeds catalog).result = .ok text ∧
        query.signature catalog types = .ok signature ∧ binding = query.binding text signature := by
  unfold Query.bind
  change (Traced.andThen _ _).result = _ ↔ _
  rw [Traced.andThen_ok]
  simp only [Traced.during_ok]
  constructor
  · rintro ⟨text, htext, h⟩
    cases hsignature : query.signature catalog types with
    | error cause =>
        rw [hsignature] at h
        cases h
    | ok signature =>
        rw [hsignature] at h
        exact ⟨text, signature, htext, rfl, (Except.ok.inj h).symm⟩
  · rintro ⟨text, signature, htext, hsignature, rfl⟩
    refine ⟨text, htext, ?_⟩
    rw [hsignature]
    rfl

/-- A query that cannot be bound has an embed that cannot be given aliases. -/
theorem bind_error {failure : Failure} :
    (query.bind catalog types).result = .error failure ↔
      ∃ inner, (query.aliasEmbeds catalog).result = .error inner ∧
        failure = inner.during (.aliasQuery query.name) := by
  unfold Query.bind
  change (Traced.andThen _ _).result = _ ↔ _
  rw [Traced.andThen_error]
  simp only [Traced.during_error, Traced.during_ok]
  constructor
  · rintro (h | ⟨text, htext, h⟩)
    · exact h
    · obtain ⟨signature, hsignature⟩ :=
        @exists_signature_of_aliasEmbeds catalog types query text htext
      rw [hsignature] at h
      cases h
  · exact Or.inl

/-- Why one embed cannot be given aliases in a text: no table has its name, or the list of the
table's columns stands nowhere in the text. -/
inductive EmbedFault (catalog : Catalog) (query : Query) (text : List Char) (embed : Identifier) :
    Cause → Prop
  | tableMissing (htable : ∀ table ∈ catalog.tables, table.rel ≠ embed) :
      EmbedFault catalog query text embed (.embedTableMissing query.name embed.name)
  | listMissing (table : Table) (htable : catalog.table? embed = some table)
      (hcolumns : table.columns ≠ [])
      (hlist : Text.positions (referenceList embed table.columns).toList text = []) :
      EmbedFault catalog query text embed
        (.embedColumnsNotFound query.name (referenceList embed table.columns) embed.name)

/-- The step: an embed fails for one of two reasons. -/
theorem aliasEmbed_error {text : List Char} {embed : Identifier} {failure : Failure} :
    (aliasEmbed catalog query text embed).result = .error failure ↔
      ∃ cause, EmbedFault catalog query text embed cause ∧ failure = ⟨cause, []⟩ := by
  constructor
  · intro h
    cases htable : catalog.table? embed with
    | none =>
        simp only [aliasEmbed, embeddedTable, htable] at h
        exact ⟨_, .tableMissing (Catalog.table?_eq_none_iff.mp htable), (Except.error.inj h).symm⟩
    | some table =>
        simp only [aliasEmbed, embeddedTable, htable] at h
        split at h
        · cases h
        · next hcolumns =>
            split at h
            · next hreplace =>
                have hcut := Option.map_eq_none_iff.mp hreplace
                exact ⟨_, .listMissing table htable hcolumns (Text.cut?_eq_none_iff.mp hcut),
                  (Except.error.inj h).symm⟩
            · cases h
  · rintro ⟨cause, hfault, rfl⟩
    cases hfault with
    | tableMissing hmissing =>
        have htable := Catalog.table?_eq_none_iff.mpr hmissing
        simp only [aliasEmbed, embeddedTable, htable]
        rfl
    | listMissing table htable hcolumns hlist =>
        have hreplace : Text.replaceFirst? (referenceList embed table.columns).toList
            (aliasedList embed table.columns).toList text = none :=
          Option.map_eq_none_iff.mpr (Text.cut?_eq_none_iff.mpr hlist)
        simp only [aliasEmbed, embeddedTable, htable, if_neg hcolumns, hreplace]
        rfl

/-- The run: the first embed that fails decides, in the text that the earlier ones have left. -/
theorem aliasAll_error {text : List Char} {embeds : List Identifier} {failure : Failure} :
    (aliasAll catalog query embeds text).result = .error failure ↔
      ∃ done embed rest middle, embeds = done ++ embed :: rest ∧
        (aliasAll catalog query done text).result = .ok middle ∧
        (aliasEmbed catalog query middle embed).result = .error failure := by
  constructor
  · intro h
    induction embeds generalizing text with
    | nil => cases h
    | cons embed embeds ih =>
        rw [aliasAll] at h
        rcases Traced.andThen_error.mp h with hfirst | ⟨middle, hfirst, hrest⟩
        · exact ⟨[], embed, embeds, text, rfl, rfl, hfirst⟩
        · obtain ⟨done, failing, rest, last, rfl, hdone, hfailing⟩ := ih hrest
          refine ⟨embed :: done, failing, rest, last, rfl, ?_, hfailing⟩
          rw [aliasAll]
          exact Traced.andThen_ok.mpr ⟨middle, hfirst, hdone⟩
  · rintro ⟨done, embed, rest, middle, rfl, hdone, hfailing⟩
    rw [result_aliasAll_append, hdone]
    change (aliasAll catalog query (embed :: rest) middle).result = _
    rw [aliasAll]
    exact Traced.andThen_error.mpr (Or.inl hfailing)

theorem aliasEmbeds_error {failure : Failure} :
    (query.aliasEmbeds catalog).result = .error failure ↔
      ∃ done embed rest text cause, query.distinctEmbeds = done ++ embed :: rest ∧
        (aliasAll catalog query done query.text.toList).result = .ok text ∧
        EmbedFault catalog query text embed cause ∧ failure = ⟨cause, []⟩ := by
  have hpure : (query.aliasEmbeds catalog).result = .error failure ↔
      (aliasAll catalog query query.distinctEmbeds query.text.toList).result = .error failure := by
    rw [aliasEmbeds]
    refine Traced.andThen_error.trans ⟨?_, Or.inl⟩
    rintro (h | ⟨text, -, h⟩)
    · exact h
    · cases h
  rw [hpure, aliasAll_error]
  constructor
  · rintro ⟨done, embed, rest, text, hsplit, hdone, hfailing⟩
    obtain ⟨cause, hfault, rfl⟩ := aliasEmbed_error.mp hfailing
    exact ⟨done, embed, rest, text, cause, hsplit, hdone, hfault, rfl⟩
  · rintro ⟨done, embed, rest, text, cause, hsplit, hdone, hfault, rfl⟩
    exact ⟨done, embed, rest, text, hsplit, hdone, aliasEmbed_error.mpr ⟨cause, hfault, rfl⟩⟩

end Query

section Bindings

variable {catalog : Catalog} {types : TypeTable} {queries : List Query}

/-- All queries are bound, each on its own. -/
theorem bindAll_ok {bindings : List Binding} :
    (bindAll catalog types queries).result = .ok bindings ↔
      List.Forall₂ (fun query binding => (query.bind catalog types).result = .ok binding) queries
        bindings := by
  induction queries generalizing bindings with
  | nil =>
      rw [List.forall₂_nil_left_iff]
      exact ⟨fun h => (Except.ok.inj h).symm, fun h => congrArg Except.ok h.symm⟩
  | cons query queries ih =>
      rw [bindAll, List.forall₂_cons_left_iff]
      refine Traced.andThen_ok.trans ?_
      constructor
      · rintro ⟨binding, hbinding, h⟩
        obtain ⟨rest, hrest, h⟩ := Traced.andThen_ok.mp h
        exact ⟨binding, rest, hbinding, ih.mp hrest, (Except.ok.inj h).symm⟩
      · rintro ⟨binding, rest, hbinding, hrest, rfl⟩
        exact ⟨binding, hbinding, Traced.andThen_ok.mpr ⟨rest, ih.mpr hrest, rfl⟩⟩

theorem exists_binding_of_mem {bindings : List Binding} {query : Query}
    (hbindings : (bindAll catalog types queries).result = .ok bindings) (hmem : query ∈ queries) :
    ∃ binding ∈ bindings, (query.bind catalog types).result = .ok binding :=
  Traversal.exists_of_mem (bindAll_ok.mp hbindings) hmem

theorem exists_query_of_mem {bindings : List Binding} {binding : Binding}
    (hbindings : (bindAll catalog types queries).result = .ok bindings)
    (hmem : binding ∈ bindings) :
    ∃ query ∈ queries, (query.bind catalog types).result = .ok binding := by
  have hflip : List.Forall₂
      (fun binding query => (Query.bind catalog types query).result = .ok binding)
      bindings queries := (bindAll_ok.mp hbindings).flip
  exact Traversal.exists_of_mem hflip hmem

/-- The first query that cannot be bound decides. -/
theorem bindAll_error {failure : Failure} :
    (bindAll catalog types queries).result = .error failure ↔
      ∃ done query rest, queries = done ++ query :: rest ∧
        (∃ bindings, (bindAll catalog types done).result = .ok bindings) ∧
        (query.bind catalog types).result = .error failure := by
  constructor
  · intro h
    induction queries with
    | nil => cases h
    | cons query queries ih =>
        rw [bindAll] at h
        rcases Traced.andThen_error.mp h with hfirst | ⟨binding, hfirst, h⟩
        · exact ⟨[], query, queries, rfl, ⟨[], rfl⟩, hfirst⟩
        · rcases Traced.andThen_error.mp h with hrest | ⟨bindings, -, h⟩
          · obtain ⟨done, failing, rest, rfl, ⟨bindings, hdone⟩, hfailing⟩ := ih hrest
            refine ⟨query :: done, failing, rest, rfl, ⟨binding :: bindings, ?_⟩, hfailing⟩
            exact bindAll_ok.mpr (.cons hfirst (bindAll_ok.mp hdone))
          · cases h
  · rintro ⟨done, query, rest, rfl, ⟨bindings, hdone⟩, hfailing⟩
    induction done generalizing bindings with
    | nil =>
        rw [List.nil_append, bindAll]
        exact Traced.andThen_error.mpr (Or.inl hfailing)
    | cons first done ih =>
        rw [bindAll_ok, List.forall₂_cons_left_iff] at hdone
        obtain ⟨binding, others, hfirst, hothers, rfl⟩ := hdone
        rw [List.cons_append, bindAll]
        refine Traced.andThen_error.mpr (Or.inr ⟨binding, hfirst, ?_⟩)
        exact Traced.andThen_error.mpr (Or.inl (ih others (bindAll_ok.mpr hothers)))

theorem exists_bindings_iff :
    (∃ bindings, (bindAll catalog types queries).result = .ok bindings) ↔
      ∀ query ∈ queries, ∃ text, (query.aliasEmbeds catalog).result = .ok text := by
  constructor
  · rintro ⟨bindings, hbindings⟩ query hquery
    obtain ⟨binding, -, hbinding⟩ := exists_binding_of_mem hbindings hquery
    obtain ⟨text, signature, htext, -, -⟩ := Query.bind_ok.mp hbinding
    exact ⟨text, htext⟩
  · intro h
    simp only [bindAll_ok]
    induction queries with
    | nil => exact ⟨[], .nil⟩
    | cons query queries ih =>
        obtain ⟨text, htext⟩ := h query (by simp)
        obtain ⟨signature, hsignature⟩ :=
          @Query.exists_signature_of_aliasEmbeds catalog types query text htext
        obtain ⟨bindings, hbindings⟩ :=
          ih fun other hother => h other (List.mem_cons_of_mem _ hother)
        have hbinding := Query.bind_ok.mpr ⟨text, signature, htext, hsignature, rfl⟩
        exact ⟨_, .cons hbinding hbindings⟩

end Bindings

theorem generate_ok {request : Request} {files : List GeneratedFile} :
    (generate request).result = .ok files ↔
      ∃ bindings, (bindAll request.catalog request.types request.queries).result = .ok bindings ∧
        files = request.files bindings := by
  rw [generate]
  refine Traced.andThen_ok.trans ?_
  constructor
  · rintro ⟨-, -, h⟩
    obtain ⟨bindings, hbindings, h⟩ := Traced.andThen_ok.mp h
    obtain ⟨-, -, h⟩ := Traced.andThen_ok.mp h
    exact ⟨bindings, hbindings, (Except.ok.inj h).symm⟩
  · rintro ⟨bindings, hbindings, rfl⟩
    refine ⟨(), rfl, Traced.andThen_ok.mpr ⟨bindings, hbindings, ?_⟩⟩
    exact Traced.andThen_ok.mpr ⟨(), rfl, rfl⟩

theorem generate_error {request : Request} {failure : Failure} :
    (generate request).result = .error failure ↔
      (bindAll request.catalog request.types request.queries).result = .error failure := by
  rw [generate]
  refine Traced.andThen_error.trans ?_
  constructor
  · rintro (h | ⟨-, -, h⟩)
    · cases h
    · rcases Traced.andThen_error.mp h with h | ⟨bindings, -, h⟩
      · exact h
      · rcases Traced.andThen_error.mp h with h | ⟨-, -, h⟩
        · cases h
        · cases h
  · intro h
    exact Or.inr ⟨(), rfl, Traced.andThen_error.mpr (Or.inl h)⟩

/-- The failure of a run is that of its first query with an embed that cannot be given aliases. -/
theorem generate_error_iff {request : Request} {failure : Failure} :
    (generate request).result = .error failure ↔
      ∃ earlier query later done embed rest text cause,
        request.queries = earlier ++ query :: later ∧
        (∀ other ∈ earlier, ∃ text, (other.aliasEmbeds request.catalog).result = .ok text) ∧
        query.distinctEmbeds = done ++ embed :: rest ∧
        (Query.aliasAll request.catalog query done query.text.toList).result = .ok text ∧
        Query.EmbedFault request.catalog query text embed cause ∧
        failure = ⟨cause, [.aliasQuery query.name]⟩ := by
  rw [generate_error, bindAll_error]
  simp only [exists_bindings_iff, Query.bind_error, Query.aliasEmbeds_error]
  constructor
  · rintro ⟨earlier, query, later, hqueries, hearlier, _,
      ⟨done, embed, rest, text, cause, hsplit, hdone, hfault, rfl⟩, rfl⟩
    exact ⟨earlier, query, later, done, embed, rest, text, cause, hqueries, hearlier, hsplit,
      hdone, hfault, rfl⟩
  · rintro ⟨earlier, query, later, done, embed, rest, text, cause, hqueries, hearlier, hsplit,
      hdone, hfault, rfl⟩
    exact ⟨earlier, query, later, hqueries, hearlier, _,
      ⟨done, embed, rest, text, cause, hsplit, hdone, hfault, rfl⟩, rfl⟩

theorem message_aliasQuery (cause : Cause) (name : String) :
    Failure.message ⟨cause, [.aliasQuery name]⟩ =
      "rewrite query " ++ name ++ ": " ++ cause.message := by
  change String.intercalate ": " ["rewrite query " ++ name, cause.message] = _
  rw [String.intercalate_cons_cons, String.intercalate_singleton]

/-- Generation succeeds exactly if every query can be given its aliases, and then it gives the file
of models and the file of queries. Otherwise it gives no file. The failure is that of the first
query that cannot be given aliases, and names this query; its cause is the first of the query's
embeds, in column order, whose table is not in the catalog, or whose table has columns that do not
stand as a list in the text as rewritten so far. A query that has its aliases has a signature,
whatever its command is, so no failure ever arises while a query is resolved. -/
theorem generate_outcome (request : Request) :
    (∀ (query : Query) (text : String) (types : TypeTable),
      (query.aliasEmbeds request.catalog).result = .ok text →
        ∃ signature, query.signature request.catalog types = .ok signature) ∧
    ((∃ files, (generate request).result = .ok files) ↔
      ∀ query ∈ request.queries, ∃ text, (query.aliasEmbeds request.catalog).result = .ok text) ∧
    (∀ files, (generate request).result = .ok files →
      files.map GeneratedFile.name = ["models.ts", "querier.ts"]) ∧
    (∀ failure, (generate request).result = .error failure ↔
      ∃ earlier query later done embed rest text,
        request.queries = earlier ++ query :: later ∧
        (∀ other ∈ earlier, ∃ text, (other.aliasEmbeds request.catalog).result = .ok text) ∧
        query.distinctEmbeds = done ++ embed :: rest ∧
        (Query.aliasAll request.catalog query done query.text.toList).result = .ok text ∧
        failure.activities = [.aliasQuery query.name] ∧
        failure.message = "rewrite query " ++ query.name ++ ": " ++ failure.cause.message ∧
        ((failure.kind = "TSD0200" ∧ failure.cause = .embedTableMissing query.name embed.name ∧
            ∀ table ∈ request.catalog.tables, table.rel ≠ embed) ∨
          (failure.kind = "TSD0201" ∧ ∃ table, request.catalog.table? embed = some table ∧
            table.columns ≠ [] ∧
            Text.positions (Query.referenceList embed table.columns).toList text = [] ∧
            failure.cause = .embedColumnsNotFound query.name
              (Query.referenceList embed table.columns) embed.name))) ∧
    (∀ failure, (generate request).result = .error failure →
      ∀ name, Activity.resolveQuery name ∉ failure.activities) := by
  refine ⟨?_, ?_, ?_, ?_, ?_⟩
  · intro query text types htext
    exact Query.exists_signature_of_aliasEmbeds htext
  · rw [← @exists_bindings_iff request.catalog request.types]
    constructor
    · rintro ⟨files, hfiles⟩
      obtain ⟨bindings, hbindings, -⟩ := generate_ok.mp hfiles
      exact ⟨bindings, hbindings⟩
    · rintro ⟨bindings, hbindings⟩
      exact ⟨_, generate_ok.mpr ⟨bindings, hbindings, rfl⟩⟩
  · intro files hfiles
    obtain ⟨bindings, -, rfl⟩ := generate_ok.mp hfiles
    rfl
  · intro failure
    rw [generate_error_iff]
    constructor
    · rintro ⟨earlier, query, later, done, embed, rest, text, cause, hqueries, hearlier, hsplit,
        hdone, hfault, rfl⟩
      refine ⟨earlier, query, later, done, embed, rest, text, hqueries, hearlier, hsplit, hdone,
        rfl, message_aliasQuery cause query.name, ?_⟩
      cases hfault with
      | tableMissing htable => exact Or.inl ⟨rfl, rfl, htable⟩
      | listMissing table htable hcolumns hlist =>
          exact Or.inr ⟨rfl, table, htable, hcolumns, hlist, rfl⟩
    · rintro ⟨earlier, query, later, done, embed, rest, text, hqueries, hearlier, hsplit, hdone,
        hactivities, -, hcause⟩
      refine ⟨earlier, query, later, done, embed, rest, text, failure.cause, hqueries, hearlier,
        hsplit, hdone, ?_, by rw [← hactivities]⟩
      rcases hcause with ⟨-, hcause, htable⟩ | ⟨-, table, htable, hcolumns, hlist, hcause⟩
      · rw [hcause]
        exact .tableMissing htable
      · rw [hcause]
        exact .listMissing table htable hcolumns hlist
  · intro failure h name hmem
    obtain ⟨_, query, _, _, _, _, _, cause, _, _, _, _, _, rfl⟩ := generate_error_iff.mp h
    cases List.mem_singleton.mp hmem

end TypedSql
