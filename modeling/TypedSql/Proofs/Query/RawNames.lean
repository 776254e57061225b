import Mathlib.Data.List.Nodup
import TypedSql.Proofs.Query.RowAgreement

/-!
When the names of the raw row differ. An embedded column gets the name of its table, an underscore
and its own name. These names are to be unique, because a database that gives back two columns of
one name loses one of them. They are not always: underscores in names let different tables and
columns make up one name, a result column may have such a name itself, and one table may be embedded
twice. These are all the ways in which names coincide.
-/

namespace TypedSql

open Script (Field TypeDeclaration)

def Column.rawNames (catalog : Catalog) (column : Column) : List String :=
  match column.embed? with
  | none => [column.name]
  | some embed =>
    match catalog.table? embed with
    | none => []
    | some table => table.columns.map (Column.embeddedName embed)

theorem Column.mem_rawNames {catalog : Catalog} {column : Column} {name : String} :
    name ∈ column.rawNames catalog ↔ (column.embed? = none ∧ name = column.name) ∨
      ∃ embed table, column.embed? = some embed ∧ catalog.table? embed = some table ∧
        ∃ c ∈ table.columns, name = c.embeddedName embed := by
  cases hembed : column.embed? with
  | none => simp [rawNames, hembed]
  | some embed =>
      cases htable : catalog.table? embed with
      | none => simp [rawNames, hembed, htable]
      | some table => simp [rawNames, hembed, htable, eq_comm]

theorem ne_append_underscore {name part : String} : name ≠ name ++ "_" ++ part := by
  intro h
  have hlength := congrArg String.length h
  have hunderscore : "_".length = 1 := rfl
  simp only [String.length_append] at hlength
  omega

private theorem names_of_append {table table' : Identifier} {column column' : Column}
    {more : List Char} (htable : table'.name.toList = table.name.toList ++ more)
    (hcolumn : '_' :: column.name.toList = more ++ '_' :: column'.name.toList) :
    (table = table' ∧ column.name = column'.name) ∨
      ∃ part, table'.name = table.name ++ "_" ++ part ∧
        column.name = part ++ "_" ++ column'.name := by
  cases more with
  | nil =>
      left
      rw [List.append_nil] at htable
      cases table
      cases table'
      refine ⟨congrArg Identifier.mk (String.toList_inj.mp htable.symm), ?_⟩
      exact String.toList_inj.mp (List.cons.inj hcolumn).2
  | cons c more =>
      obtain ⟨rfl, hcolumn⟩ := List.cons.inj hcolumn
      refine Or.inr ⟨String.ofList more, ?_, ?_⟩
      · apply String.toList_inj.mp
        simpa using htable
      · apply String.toList_inj.mp
        simpa using hcolumn

/-- Two embedded columns get one name if they are one column of one table, or if the name of one
table goes on after the name of the other and an underscore, and the name of the other's column
begins with what follows there. -/
theorem Column.embeddedName_eq_iff {table table' : Identifier} {column column' : Column} :
    column.embeddedName table = column'.embeddedName table' ↔
      (table = table' ∧ column.name = column'.name) ∨
      (∃ part, table'.name = table.name ++ "_" ++ part ∧
        column.name = part ++ "_" ++ column'.name) ∨
      (∃ part, table.name = table'.name ++ "_" ++ part ∧
        column'.name = part ++ "_" ++ column.name) := by
  constructor
  · intro h
    have hchars : table.name.toList ++ '_' :: column.name.toList =
        table'.name.toList ++ '_' :: column'.name.toList := by
      simpa [embeddedName] using congrArg String.toList h
    rcases List.append_eq_append_iff.mp hchars with
      ⟨more, htable, hcolumn⟩ | ⟨more, htable, hcolumn⟩
    · rcases names_of_append htable hcolumn with hsame | hpart
      · exact Or.inl hsame
      · exact Or.inr (Or.inl hpart)
    · rcases names_of_append htable hcolumn with ⟨rfl, hname⟩ | hpart
      · exact Or.inl ⟨rfl, hname.symm⟩
      · exact Or.inr (Or.inr hpart)
  · rintro (⟨rfl, hname⟩ | ⟨part, htable, hname⟩ | ⟨part, htable, hname⟩)
    · rw [embeddedName, embeddedName, hname]
    · simp [embeddedName, htable, hname, String.append_assoc]
    · simp [embeddedName, htable, hname, String.append_assoc]

namespace Query

/-- What it takes for all names of the raw row to differ, where the result columns have different
names and so have the columns of every embedded table. -/
structure UniqueRawNames (catalog : Catalog) (query : Query) : Prop where
  -- A table with columns is embedded by one result column only.
  once : query.columns.Pairwise fun first second =>
    ∀ embed ∈ first.embed?, embed ∈ second.embed? →
      ∀ table ∈ catalog.table? embed, table.columns = []
  -- No result column has the name that an embedded column gets.
  plain : ∀ column ∈ query.columns, column.embed? = none →
    ∀ embed ∈ query.embeds, ∀ table ∈ catalog.table? embed, ∀ c ∈ table.columns,
      column.name ≠ c.embeddedName embed
  -- Where the name of one table goes on after the name of another and an underscore, no column
  -- of the shorter table has a name that goes on in the same way before one of the longer table.
  tables : ∀ embed ∈ query.embeds, ∀ embed' ∈ query.embeds,
    ∀ table ∈ catalog.table? embed, ∀ table' ∈ catalog.table? embed',
      ∀ part, embed'.name = embed.name ++ "_" ++ part →
        ∀ c ∈ table.columns, ∀ c' ∈ table'.columns, c.name ≠ part ++ "_" ++ c'.name

variable {catalog : Catalog} {types : TypeTable} {query : Query}

theorem Parts.map_name {columns : List Column} {parts : List (List Field × Mapping)}
    (h : Parts catalog types query columns parts) :
    (parts.flatMap Prod.fst).map Field.name = columns.flatMap (Column.rawNames catalog) := by
  induction h with
  | nil => rfl
  | @cons column part _ _ hpart _ ih =>
      have hnames : part.1.map Field.name = column.rawNames catalog := by
        rcases rawColumn_cases hpart with ⟨hembed, rfl⟩ | ⟨embed, table, hembed, htable, rfl⟩
        · simp [Column.rawNames, hembed]
        · simp [Column.rawNames, hembed, htable, Function.comp_def]
      rw [List.flatMap_cons, List.flatMap_cons, List.map_append, ih, hnames]

theorem uniqueRawNames_of_nodup
    (h : (query.columns.flatMap (Column.rawNames catalog)).Nodup) :
    query.UniqueRawNames catalog := by
  obtain ⟨-, hdisjoint⟩ := List.nodup_flatMap.mp h
  -- Two result columns have no name in common; each condition is a case of this.
  have hapart {first second : Column} (hfirst : first ∈ query.columns)
      (hsecond : second ∈ query.columns) (hne : first ≠ second) :
      List.Disjoint (first.rawNames catalog) (second.rawNames catalog) := by
    have hsymm : Std.Symm (Function.onFun List.Disjoint (Column.rawNames catalog)) :=
      ⟨fun _ _ hnames _ hsecond hfirst => hnames hfirst hsecond⟩
    exact hdisjoint.forall hfirst hsecond hne
  refine ⟨?_, ?_, ?_⟩
  · refine hdisjoint.imp ?_
    intro first second hnames embed hfirst hsecond table htable
    by_contra hne
    obtain ⟨c, hc⟩ := List.exists_mem_of_ne_nil _ hne
    exact hnames (Column.mem_rawNames.mpr (Or.inr ⟨embed, table, hfirst, htable, c, hc, rfl⟩))
      (Column.mem_rawNames.mpr (Or.inr ⟨embed, table, hsecond, htable, c, hc, rfl⟩))
  · intro column hcolumn hplain embed hembed table htable c hc hname
    obtain ⟨column', hcolumn', hembed'⟩ := List.mem_filterMap.mp hembed
    have hne : column ≠ column' := by
      rintro rfl
      rw [hplain] at hembed'
      cases hembed'
    exact hapart hcolumn hcolumn' hne (Column.mem_rawNames.mpr (Or.inl ⟨hplain, rfl⟩))
      (Column.mem_rawNames.mpr (Or.inr ⟨embed, table, hembed', htable, c, hc, hname⟩))
  · intro embed hembed embed' hembed' table htable table' htable' part hpart c hc c' hc' hname
    obtain ⟨column, hcolumn, hfirst⟩ := List.mem_filterMap.mp hembed
    obtain ⟨column', hcolumn', hsecond⟩ := List.mem_filterMap.mp hembed'
    have hne : column ≠ column' := by
      rintro rfl
      obtain rfl : embed = embed' := Option.some.inj (hfirst.symm.trans hsecond)
      exact ne_append_underscore hpart
    have hsame : c.embeddedName embed = c'.embeddedName embed' :=
      Column.embeddedName_eq_iff.mpr (Or.inr (Or.inl ⟨part, hpart, hname⟩))
    exact hapart hcolumn hcolumn' hne
      (Column.mem_rawNames.mpr (Or.inr ⟨embed, table, hfirst, htable, c, hc, rfl⟩))
      (Column.mem_rawNames.mpr (Or.inr ⟨embed', table', hsecond, htable', c', hc', hsame⟩))

/-- One result column does not make up one name twice. -/
theorem nodup_rawNames {column : Column}
    (h : ∀ embed ∈ column.embed?, ∀ table ∈ catalog.table? embed,
      (table.columns.map Column.name).Nodup) : (column.rawNames catalog).Nodup := by
  rw [Column.rawNames]
  split
  · exact List.nodup_singleton _
  · next embed hembed =>
      split
      · exact List.nodup_nil
      · next table htable =>
          have hdistinct := List.pairwise_map.mp (h embed hembed table htable)
          refine List.pairwise_map.mpr (hdistinct.imp ?_)
          intro c c' hne hsame
          rcases Column.embeddedName_eq_iff.mp hsame with
            ⟨-, hname⟩ | ⟨part, hpart, -⟩ | ⟨part, hpart, -⟩
          · exact hne hname
          · exact ne_append_underscore hpart
          · exact ne_append_underscore hpart

/-- Two result columns make up no name in common. -/
theorem UniqueRawNames.disjoint (h : query.UniqueRawNames catalog) {first second : Column}
    (hfirst : first ∈ query.columns) (hsecond : second ∈ query.columns)
    (hne : first.name ≠ second.name)
    (honce : ∀ embed ∈ first.embed?, embed ∈ second.embed? →
      ∀ table ∈ catalog.table? embed, table.columns = []) :
    List.Disjoint (first.rawNames catalog) (second.rawNames catalog) := by
  intro name hname hname'
  rcases Column.mem_rawNames.mp hname with
    ⟨hplain, rfl⟩ | ⟨embed, table, hembed, htable, c, hc, rfl⟩
  · rcases Column.mem_rawNames.mp hname' with
      ⟨-, hsame⟩ | ⟨embed, table, hembed, htable, c, hc, hsame⟩
    · exact hne hsame
    · have hmem := List.mem_filterMap.mpr ⟨second, hsecond, hembed⟩
      exact h.plain first hfirst hplain embed hmem table htable c hc hsame
  · have hmem := List.mem_filterMap.mpr ⟨first, hfirst, hembed⟩
    rcases Column.mem_rawNames.mp hname' with
      ⟨hplain, hsame⟩ | ⟨embed', table', hembed', htable', c', hc', hsame⟩
    · exact h.plain second hsecond hplain embed hmem table htable c hc hsame.symm
    · have hmem' := List.mem_filterMap.mpr ⟨second, hsecond, hembed'⟩
      rcases Column.embeddedName_eq_iff.mp hsame with
        ⟨rfl, -⟩ | ⟨part, hpart, hname⟩ | ⟨part, hpart, hname⟩
      · rw [honce embed hembed hembed' table htable] at hc
        cases hc
      · exact h.tables embed hmem embed' hmem' table htable table' htable' part hpart c hc c' hc'
          hname
      · exact h.tables embed' hmem' embed hmem table' htable' table htable part hpart c' hc' c hc
          hname

theorem nodup_of_uniqueRawNames (hcolumns : (query.columns.map Column.name).Nodup)
    (htables : ∀ embed ∈ query.embeds, ∀ table ∈ catalog.table? embed,
      (table.columns.map Column.name).Nodup)
    (h : query.UniqueRawNames catalog) :
    (query.columns.flatMap (Column.rawNames catalog)).Nodup := by
  have hnames : query.columns.Pairwise fun first second => first.name ≠ second.name :=
    List.pairwise_map.mp hcolumns
  refine List.nodup_flatMap.mpr ⟨?_, (h.once.and hnames).imp_of_mem ?_⟩
  · intro column hcolumn
    apply nodup_rawNames
    intro embed hembed
    exact htables embed (List.mem_filterMap.mpr ⟨column, hcolumn, hembed⟩)
  · intro first second hfirst hsecond hpair
    obtain ⟨honce, hne⟩ := hpair
    exact h.disjoint hfirst hsecond hne honce

/-- The names of the raw row differ exactly if no table with columns is embedded twice, no result
column has the name of an embedded column, and no two tables make up one name with an underscore
inside the name of the one and inside a column name of the other. Different names of the result
columns and of each table's columns do not suffice. -/
theorem nodup_rawRow_iff (catalog : Catalog) (types : TypeTable) (query : Query)
    (signature : Signature) (raw : TypeDeclaration)
    (hsignature : query.signature catalog types = .ok signature)
    (hraw : signature.rawRow = some raw)
    (hcolumns : (query.columns.map Column.name).Nodup)
    (htables : ∀ embed ∈ query.embeds, ∀ table ∈ catalog.table? embed,
      (table.columns.map Column.name).Nodup) :
    (raw.fields.map Field.name).Nodup ↔ query.UniqueRawNames catalog := by
  obtain ⟨mapping, hrow, -⟩ := signature_eq_ok hsignature hraw
  obtain ⟨parts, hparts, hfields, -⟩ := rawRow_parts hrow
  rw [hfields, hparts.map_name]
  exact ⟨uniqueRawNames_of_nodup, nodup_of_uniqueRawNames hcolumns htables⟩

theorem nodup_rawRow_songPlays :
    ∃ signature raw, songPlays.signature songs (.ofOverrides []) = .ok signature ∧
      signature.rawRow = some raw ∧ (raw.fields.map Field.name).Nodup := by
  refine ⟨_, _, rfl, rfl, ?_⟩
  rw [nodup_rawRow_iff songs (.ofOverrides []) songPlays _ _ rfl rfl (by decide) (by decide)]
  refine ⟨by decide, by decide, ?_⟩
  have hembeds : songPlays.embeds = [⟨"song"⟩] := by decide
  intro embed hembed embed' hembed' _ _ _ _ part hpart
  obtain rfl : embed = ⟨"song"⟩ := by simpa [hembeds] using hembed
  obtain rfl : embed' = ⟨"song"⟩ := by simpa [hembeds] using hembed'
  exact absurd hpart ne_append_underscore

def playlists : Catalog where
  schemas := [{ tables := [⟨⟨"song"⟩, [{ name := "list_id" }]⟩,
    ⟨⟨"song_list"⟩, [{ name := "id" }]⟩] }]

def songsInLists : Query where
  name := "SongsInLists"
  command := .many
  text := "SELECT song.list_id, song_list.id FROM song JOIN song_list"
  columns := [{ name := "song", embedTable := some ⟨"song"⟩ },
    { name := "song_list", embedTable := some ⟨"song_list"⟩ }]

/-- Result columns have different names and so have the columns of each table, but the raw row has
one name twice, and so has the text. -/
theorem rawRow_songsInLists :
    ∃ signature raw, songsInLists.signature playlists (.ofOverrides []) = .ok signature ∧
      signature.rawRow = some raw ∧
      (songsInLists.columns.map Column.name).Nodup ∧
      (∀ embed ∈ songsInLists.embeds, ∀ table ∈ playlists.table? embed,
        (table.columns.map Column.name).Nodup) ∧
      raw.fields.map Field.name = ["song_list_id", "song_list_id"] ∧
      ¬ (raw.fields.map Field.name).Nodup ∧
      (songsInLists.aliasEmbeds playlists).result =
        .ok ("SELECT song.list_id AS song_list_id, song_list.id AS song_list_id " ++
          "FROM song JOIN song_list") :=
  ⟨_, _, rfl, rfl, by decide, by decide, by decide, by decide, by decide +kernel⟩

end Query

end TypedSql
