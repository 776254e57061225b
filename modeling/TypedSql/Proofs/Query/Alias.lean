import Mathlib.Data.List.Pairwise
import Mathlib.Data.List.Perm.Basic
import TypedSql.Proofs.Query.ColumnList
import TypedSql.Proofs.Text.Replacement

/-!
Aliases for all embedded tables. They are put into the text one table after the other, and every
search sees the aliases before it. If names are words and every column list stands delimited in the
text, this does not matter: all lists could be found in the text as it was, and replaced at once.
-/

namespace TypedSql.Query

open Text

/-- The column list of an embedded table, and the same list with aliases. A table without columns
has none. -/
def aliasPair? (catalog : Catalog) (embed : Identifier) : Option (List Char × List Char) :=
  match catalog.table? embed with
  | none => none
  | some table =>
    if table.columns = [] then none
    else some ((referenceList embed table.columns).toList, (aliasedList embed table.columns).toList)

def aliasPairs (catalog : Catalog) (embeds : List Identifier) : List (List Char × List Char) :=
  embeds.filterMap (aliasPair? catalog)

def ProperNames (catalog : Catalog) (embeds : List Identifier) : Prop :=
  ∀ embed ∈ embeds, ∀ table ∈ catalog.table? embed,
    IsWord embed.name.toList ∧ ∀ column ∈ table.columns, IsWord column.name.toList

/-- Wherever the column list of an embedded table stands in the text, it stands delimited. -/
def ListsDelimited (catalog : Catalog) (embeds : List Identifier) (text : List Char) : Prop :=
  ∀ embed ∈ embeds, ∀ pair ∈ aliasPair? catalog embed, Delimited pair.1 text

instance (catalog : Catalog) (embeds : List Identifier) : Decidable (ProperNames catalog embeds) :=
  inferInstanceAs (Decidable (∀ _ ∈ _, ∀ _ ∈ _, _))

instance (catalog : Catalog) (embeds : List Identifier) (text : List Char) :
    Decidable (ListsDelimited catalog embeds text) :=
  inferInstanceAs (Decidable (∀ _ ∈ _, ∀ _ ∈ _, _))

theorem ProperNames.subset {catalog : Catalog} {embeds embeds' : List Identifier}
    (h : ProperNames catalog embeds) (hsub : embeds' ⊆ embeds) : ProperNames catalog embeds' :=
  fun embed hembed => h embed (hsub hembed)

theorem ListsDelimited.subset {catalog : Catalog} {embeds embeds' : List Identifier}
    {text : List Char} (h : ListsDelimited catalog embeds text) (hsub : embeds' ⊆ embeds) :
    ListsDelimited catalog embeds' text :=
  fun embed hembed => h embed (hsub hembed)

section Run

variable {catalog : Catalog} {query : Query} {embed : Identifier} {embeds : List Identifier}
  {pair : List Char × List Char} {text text' : List Char}

theorem aliasPair?_eq_some :
    aliasPair? catalog embed = some pair ↔ ∃ table, catalog.table? embed = some table ∧
      table.columns ≠ [] ∧ pair =
        ((referenceList embed table.columns).toList, (aliasedList embed table.columns).toList) := by
  cases htable : catalog.table? embed with
  | none => simp [aliasPair?, htable]
  | some table =>
      by_cases hcolumns : table.columns = []
      · simp [aliasPair?, htable, hcolumns]
      · simp [aliasPair?, htable, hcolumns, eq_comm]

/-- The step: a table is found, and its list, if it has one, is replaced. -/
theorem result_aliasEmbed :
    (aliasEmbed catalog query text embed).result = .ok text' ↔
      (∃ table, catalog.table? embed = some table) ∧
        replaceInTurn? (aliasPair? catalog embed).toList text = some text' := by
  cases htable : catalog.table? embed with
  | none => simp [aliasEmbed, embeddedTable, htable, Traced.fail]
  | some table =>
      by_cases hcolumns : table.columns = []
      · simp [aliasEmbed, embeddedTable, aliasPair?, htable, hcolumns, Traced.done, replaceInTurn?]
      · cases hreplace : replaceFirst? (referenceList embed table.columns).toList
            (aliasedList embed table.columns).toList text with
        | none =>
            simp [aliasEmbed, embeddedTable, aliasPair?, htable, hcolumns, hreplace, Traced.fail,
              replaceInTurn?]
        | some replaced =>
            simp [aliasEmbed, embeddedTable, aliasPair?, htable, hcolumns, hreplace,
              replaceInTurn?]

theorem result_aliasAll_cons (embed : Identifier) (rest : List Identifier) (text : List Char) :
    (aliasAll catalog query (embed :: rest) text).result =
      (aliasEmbed catalog query text embed).result.bind fun middle =>
        (aliasAll catalog query rest middle).result :=
  Traced.result_andThen _ _

theorem result_aliasAll_append (first second : List Identifier) (text : List Char) :
    (aliasAll catalog query (first ++ second) text).result =
      (aliasAll catalog query first text).result.bind fun middle =>
        (aliasAll catalog query second middle).result := by
  induction first generalizing text with
  | nil => rfl
  | cons embed first ih =>
      rw [List.cons_append, result_aliasAll_cons, result_aliasAll_cons]
      cases (aliasEmbed catalog query text embed).result with
      | error failure => rfl
      | ok middle => exact ih middle

/-- The run: all tables are found, and their lists are replaced in turn. -/
theorem result_aliasAll :
    (aliasAll catalog query embeds text).result = .ok text' ↔
      (∀ embed ∈ embeds, ∃ table, catalog.table? embed = some table) ∧
        replaceInTurn? (aliasPairs catalog embeds) text = some text' := by
  induction embeds generalizing text with
  | nil => simp [aliasAll, aliasPairs, replaceInTurn?, Traced.done]
  | cons embed rest ih =>
      have hpairs : aliasPairs catalog (embed :: rest) =
          (aliasPair? catalog embed).toList ++ aliasPairs catalog rest := by
        cases hpair : aliasPair? catalog embed <;> simp [aliasPairs, hpair]
      have hturn : replaceInTurn? (aliasPairs catalog (embed :: rest)) text =
          (replaceInTurn? (aliasPair? catalog embed).toList text).bind
            (replaceInTurn? (aliasPairs catalog rest)) := by
        rw [hpairs]
        exact List.foldlM_append
      rw [result_aliasAll_cons, hturn, List.forall_mem_cons, Option.bind_eq_some_iff]
      constructor
      · intro h
        cases hfirst : (aliasEmbed catalog query text embed).result with
        | error failure =>
            rw [hfirst] at h
            cases h
        | ok middle =>
            rw [hfirst] at h
            obtain ⟨htable, hreplace⟩ := result_aliasEmbed.mp hfirst
            obtain ⟨htables, hrest⟩ := ih.mp h
            exact ⟨⟨htable, htables⟩, middle, hreplace, hrest⟩
      · rintro ⟨⟨htable, htables⟩, middle, hreplace, hrest⟩
        rw [result_aliasEmbed.mpr ⟨htable, hreplace⟩]
        exact ih.mpr ⟨htables, hrest⟩

theorem ne_nil_of_mem_aliasPairs (hnames : ProperNames catalog embeds) :
    ∀ pair ∈ aliasPairs catalog embeds, pair.1 ≠ [] := by
  intro pair hpair
  obtain ⟨embed, hembed, hpair⟩ := List.mem_filterMap.mp hpair
  obtain ⟨table, htable, hcolumns, rfl⟩ := aliasPair?_eq_some.mp hpair
  obtain ⟨hword, hwords⟩ := hnames embed hembed table htable
  exact (listsColumns_referenceList hword hcolumns hwords).ne_nil

theorem toList_name_ne {first second : Identifier} (h : first ≠ second) :
    first.name.toList ≠ second.name.toList := by
  intro hsame
  cases first
  cases second
  exact h (congrArg Identifier.mk (String.toList_inj.mp hsame))

/-- The lists of different tables are independent. Every list that is still to be replaced stands
delimited in the text at each step. -/
theorem independent_aliasPairs (hdistinct : embeds.Nodup) (hnames : ProperNames catalog embeds)
    (hdelimited : ListsDelimited catalog embeds text) :
    Independent (aliasPairs catalog embeds) text := by
  induction embeds generalizing text with
  | nil => trivial
  | cons embed rest ih =>
      obtain ⟨hhead, htail⟩ := List.nodup_cons.mp hdistinct
      have hnames' := hnames.subset (List.subset_cons_self embed rest)
      have hdelimited' := hdelimited.subset (List.subset_cons_self embed rest)
      cases hpair : aliasPair? catalog embed with
      | none =>
          rw [aliasPairs, List.filterMap_cons_none hpair]
          exact ih htail hnames' hdelimited'
      | some pair =>
          rw [aliasPairs, List.filterMap_cons_some hpair]
          intro before after hcut
          have htext : before ++ (pair.1 ++ after) = text := cut?_append hcut
          have hlist := hdelimited embed (by simp) pair hpair
          obtain ⟨table, htable, hcolumns, rfl⟩ := aliasPair?_eq_some.mp hpair
          obtain ⟨hword, hwords⟩ := hnames embed (by simp) table htable
          subst htext
          -- What holds of the lists still to be replaced survives the aliases of this one.
          have hstep : ∀ later ∈ rest, ∀ pair ∈ aliasPair? catalog later,
              Apart pair.1 before (referenceList embed table.columns).toList after ∧
              Apart pair.1 before (aliasedList embed table.columns).toList after ∧
              Delimited pair.1 (before ++ ((aliasedList embed table.columns).toList ++ after)) := by
            intro later hlater pair hpair
            have hpattern := hdelimited' later hlater pair hpair
            obtain ⟨table', htable', hcolumns', rfl⟩ := aliasPair?_eq_some.mp hpair
            obtain ⟨hword', hwords'⟩ := hnames' later hlater table' htable'
            have hother : later ≠ embed := by
              rintro rfl
              exact hhead hlater
            have hshape := listsColumns_referenceList hword' hcolumns' hwords'
            exact delimited_aliasedList hshape hword hcolumns hwords (toList_name_ne hother) hlist
              hpattern
          refine ⟨?_, ih htail hnames' ?_⟩
          · intro pair hpair
            obtain ⟨later, hlater, hpair⟩ := List.mem_filterMap.mp hpair
            obtain ⟨hold, hnew, -⟩ := hstep later hlater pair hpair
            exact ⟨hold, hnew⟩
          · intro later hlater pair hpair
            exact (hstep later hlater pair hpair).2.2

/-- The first places of different lists have no character in common. -/
theorem disjoint_aliases (hdistinct : embeds.Nodup) (hnames : ProperNames catalog embeds)
    (hdelimited : ListsDelimited catalog embeds text) :
    ((aliasPairs catalog embeds).filterMap (edit? text)).Pairwise Edit.Disjoint := by
  apply disjoint_edits (ne_nil_of_mem_aliasPairs hnames)
  rw [aliasPairs, List.pairwise_filterMap]
  refine hdistinct.imp_of_mem ?_
  intro first second hfirst hsecond hne pair hpair pair' hpair' before after htext
  obtain ⟨hbefore, hafter⟩ := hdelimited first hfirst pair hpair before after htext
  have hpattern := hdelimited second hsecond pair' hpair'
  rw [← htext] at hpattern
  obtain ⟨table, htable, hcolumns, rfl⟩ := aliasPair?_eq_some.mp hpair
  obtain ⟨table', htable', hcolumns', rfl⟩ := aliasPair?_eq_some.mp hpair'
  obtain ⟨hword, hwords⟩ := hnames first hfirst table htable
  obtain ⟨hword', hwords'⟩ := hnames second hsecond table' htable'
  have hlist := listsColumns_referenceList hword hcolumns hwords
  have hlist' := listsColumns_referenceList hword' hcolumns' hwords'
  exact hlist'.apart hlist (toList_name_ne hne.symm) hbefore hafter hpattern

theorem mem_distinctEmbeds : embed ∈ query.distinctEmbeds ↔ embed ∈ query.embeds := by
  simp [distinctEmbeds, mem_firstOccurrences]

theorem distinctEmbeds_subset (query : Query) : query.distinctEmbeds ⊆ query.embeds :=
  fun _ => mem_distinctEmbeds.mp

theorem nodup_distinctEmbeds (query : Query) : query.distinctEmbeds.Nodup :=
  nodup_firstOccurrences _ _

theorem result_aliasEmbeds {result : String} :
    (query.aliasEmbeds catalog).result = .ok result ↔
      (aliasAll catalog query query.distinctEmbeds query.text.toList).result =
        .ok result.toList := by
  have hbind : (query.aliasEmbeds catalog).result =
      (aliasAll catalog query query.distinctEmbeds query.text.toList).result.bind
        fun text => .ok (String.ofList text) := Traced.result_andThen _ _
  rw [hbind]
  cases haliased : (aliasAll catalog query query.distinctEmbeds query.text.toList).result with
  | error failure =>
      constructor <;> intro h <;> cases h
  | ok text =>
      constructor
      · intro h
        obtain rfl : String.ofList text = result := Except.ok.inj h
        rw [String.toList_ofList]
      · intro h
        obtain rfl : text = result.toList := Except.ok.inj h
        exact congrArg Except.ok String.ofList_toList

/-- Where aliases can be given, the list of every embedded table with columns is replaced at one of
the steps. -/
theorem exists_aliasedList {result : String} {table : Table}
    (h : (query.aliasEmbeds catalog).result = .ok result) (hembed : embed ∈ query.embeds)
    (htable : catalog.table? embed = some table) (hcolumns : table.columns ≠ []) :
    ∃ done rest text before after, query.distinctEmbeds = done ++ embed :: rest ∧
      (aliasAll catalog query done query.text.toList).result = .ok text ∧
      cut? (referenceList embed table.columns).toList text = some (before, after) ∧
      (aliasAll catalog query rest
        (before ++ ((aliasedList embed table.columns).toList ++ after))).result =
          .ok result.toList := by
  obtain ⟨done, rest, hsplit⟩ := List.append_of_mem (mem_distinctEmbeds.mpr hembed)
  have hall := result_aliasEmbeds.mp h
  rw [hsplit, result_aliasAll_append] at hall
  cases hdone : (aliasAll catalog query done query.text.toList).result with
  | error failure =>
      rw [hdone] at hall
      cases hall
  | ok text =>
      rw [hdone] at hall
      change (aliasAll catalog query (embed :: rest) text).result = _ at hall
      rw [result_aliasAll_cons] at hall
      cases hstep : (aliasEmbed catalog query text embed).result with
      | error failure =>
          rw [hstep] at hall
          cases hall
      | ok middle =>
          rw [hstep] at hall
          have hpair := aliasPair?_eq_some.mpr ⟨table, htable, hcolumns, rfl⟩
          obtain ⟨-, hturn⟩ := result_aliasEmbed.mp hstep
          rw [hpair] at hturn
          obtain ⟨replaced, hfirst, hlast⟩ := Option.bind_eq_some_iff.mp hturn
          obtain rfl : replaced = middle := Option.some.inj hlast
          obtain ⟨⟨before, after⟩, hcut, rfl⟩ := Option.map_eq_some_iff.mp hfirst
          exact ⟨done, rest, text, before, after, hsplit, hdone, hcut, hall⟩

/-- Aliases in turn succeed on what the original text has, and give what replacing at once gives. -/
theorem result_aliasEmbeds_at_once (hnames : ProperNames catalog query.embeds)
    (hdelimited : ListsDelimited catalog query.embeds query.text.toList) (result : String) :
    (query.aliasEmbeds catalog).result = .ok result ↔
      (∀ embed ∈ query.embeds, ∃ table, catalog.table? embed = some table ∧
        (table.columns ≠ [] →
          positions (referenceList embed table.columns).toList query.text.toList ≠ [])) ∧
      result.toList =
        replaceAtOnce (aliasPairs catalog query.distinctEmbeds) query.text.toList := by
  have hnames' := hnames.subset query.distinctEmbeds_subset
  have hdelimited' := hdelimited.subset query.distinctEmbeds_subset
  have hindependent := independent_aliasPairs query.nodup_distinctEmbeds hnames' hdelimited'
  rw [result_aliasEmbeds, result_aliasAll,
    replaceInTurn?_eq (ne_nil_of_mem_aliasPairs hnames') hindependent]
  constructor
  · rintro ⟨htables, hturn⟩
    split at hturn
    · next hfound =>
        refine ⟨?_, (Option.some.inj hturn).symm⟩
        intro embed hembed
        have hembed' := mem_distinctEmbeds.mpr hembed
        obtain ⟨table, htable⟩ := htables embed hembed'
        refine ⟨table, htable, ?_⟩
        intro hcolumns
        have hpair := aliasPair?_eq_some.mpr ⟨table, htable, hcolumns, rfl⟩
        exact hfound _ (List.mem_filterMap.mpr ⟨embed, hembed', hpair⟩)
    · cases hturn
  · rintro ⟨htables, hresult⟩
    refine ⟨?_, ?_⟩
    · intro embed hembed
      obtain ⟨table, htable, -⟩ := htables embed (mem_distinctEmbeds.mp hembed)
      exact ⟨table, htable⟩
    · rw [if_pos, hresult]
      intro pair hpair
      obtain ⟨embed, hembed, hpair⟩ := List.mem_filterMap.mp hpair
      obtain ⟨table, htable, hcolumns, rfl⟩ := aliasPair?_eq_some.mp hpair
      obtain ⟨table', htable', hfound⟩ := htables embed (mem_distinctEmbeds.mp hembed)
      obtain rfl : table = table' := Option.some.inj (htable.symm.trans htable')
      exact hfound hcolumns

/-- Replacing lists at once gives one text for every order of the embeds. -/
theorem replaceAtOnce_perm {embeds' : List Identifier} (hperm : embeds.Perm embeds')
    (hdistinct : embeds.Nodup) (hnames : ProperNames catalog embeds)
    (hdelimited : ListsDelimited catalog embeds text) :
    replaceAtOnce (aliasPairs catalog embeds) text =
      replaceAtOnce (aliasPairs catalog embeds') text := by
  have hdisjoint := disjoint_aliases hdistinct hnames hdelimited
  have hsymm : Std.Symm (@Edit.Disjoint Char) :=
    ⟨fun first second h i hsecond hfirst => h i hfirst hsecond⟩
  apply rewrite_perm
  · exact (hperm.filterMap _).filterMap _
  · intro first hfirst second hsecond hne
    exact hdisjoint.forall hfirst hsecond hne

end Run

/-- One table after the other, aliases come out as if all lists were replaced at once. If names are
words and every column list stands delimited in the text, aliases can be given exactly if every
embedded table is in the catalog and every list stands in the original text. The result is that text
with every list replaced where it first stands there, and these places do not overlap. At each step
a list that is still to be replaced stands where it stood in the original text, moved by what was
inserted before. The order of the columns does not matter. -/
theorem aliasEmbeds_at_once (catalog : Catalog) (query : Query)
    (hnames : ProperNames catalog query.embeds)
    (hdelimited : ListsDelimited catalog query.embeds query.text.toList) :
    (∀ text, (query.aliasEmbeds catalog).result = .ok text ↔
      (∀ embed ∈ query.embeds, ∃ table, catalog.table? embed = some table ∧
        (table.columns ≠ [] →
          positions (referenceList embed table.columns).toList query.text.toList ≠ [])) ∧
      text.toList = replaceAtOnce (aliasPairs catalog query.distinctEmbeds) query.text.toList) ∧
    ((aliasPairs catalog query.distinctEmbeds).filterMap
      (edit? query.text.toList)).Pairwise Edit.Disjoint ∧
    (∀ done embed rest pair text, query.distinctEmbeds = done ++ embed :: rest →
      aliasPair? catalog embed = some pair →
      (aliasAll catalog query done query.text.toList).result = .ok text →
      positions pair.1 text = (positions pair.1 query.text.toList).map fun i =>
        (rewrite ((aliasPairs catalog done).filterMap (edit? query.text.toList))
          (query.text.toList.take i)).length) ∧
    (∀ columns, columns.Perm query.columns → ∀ text,
      (aliasEmbeds catalog { query with columns := columns }).result = .ok text ↔
        (query.aliasEmbeds catalog).result = .ok text) := by
  have hnames' := hnames.subset query.distinctEmbeds_subset
  have hdelimited' := hdelimited.subset query.distinctEmbeds_subset
  have hdistinct := query.nodup_distinctEmbeds
  refine ⟨result_aliasEmbeds_at_once hnames hdelimited,
    disjoint_aliases hdistinct hnames' hdelimited', ?_, ?_⟩
  · intro done embed rest pair text hsplit hpair hdone
    have hsub : (done ++ [embed]).Sublist query.distinctEmbeds := by
      rw [hsplit]
      exact (List.Sublist.refl done).append (List.singleton_sublist.mpr (by simp))
    have hpairs : aliasPairs catalog (done ++ [embed]) = aliasPairs catalog done ++ [pair] := by
      simp [aliasPairs, hpair]
    have hnamesDone := hnames'.subset hsub.subset
    have hindependent := independent_aliasPairs (hdistinct.sublist hsub) hnamesDone
      (hdelimited'.subset hsub.subset)
    have hpatterns := ne_nil_of_mem_aliasPairs hnamesDone
    rw [hpairs] at hindependent hpatterns
    exact positions_replaceInTurn? hpatterns hindependent (result_aliasAll.mp hdone).2
  · intro columns hcolumns text
    let other : Query := { query with columns := columns }
    have hembeds : other.embeds.Perm query.embeds := hcolumns.filterMap _
    have hnamesOther := hnames.subset hembeds.subset
    have hdelimitedOther := hdelimited.subset hembeds.subset
    have hperm : query.distinctEmbeds.Perm other.distinctEmbeds := by
      rw [List.perm_ext_iff_of_nodup hdistinct other.nodup_distinctEmbeds]
      intro embed
      rw [mem_distinctEmbeds, mem_distinctEmbeds, hembeds.mem_iff]
    change (other.aliasEmbeds catalog).result = .ok text ↔ _
    rw [result_aliasEmbeds_at_once hnamesOther hdelimitedOther,
      result_aliasEmbeds_at_once hnames hdelimited,
      replaceAtOnce_perm hperm hdistinct hnames' hdelimited']
    simp only [hembeds.mem_iff]
    rfl

def songs : Catalog where
  schemas := [{ tables := [⟨⟨"song"⟩, [{ name := "id" }, { name := "title" }]⟩,
    ⟨⟨"artist"⟩, [{ name := "id" }]⟩, ⟨⟨"label"⟩, []⟩] }]

/-- The list of songs stands twice in the text, and the tables in another order than the columns. -/
def songsOfArtists : Query where
  name := "SongsOfArtists"
  command := .many
  text := "SELECT song.id, song.title, artist.id FROM song ORDER BY song.id, song.title"
  columns := [{ name := "artist", embedTable := some ⟨"artist"⟩ },
    { name := "label", embedTable := some ⟨"label"⟩ },
    { name := "song", embedTable := some ⟨"song"⟩ }]

theorem alias_songsOfArtists :
    (songsOfArtists.aliasEmbeds songs).result =
      .ok ("SELECT song.id AS song_id, song.title AS song_title, artist.id AS artist_id " ++
        "FROM song ORDER BY song.id, song.title") := by
  obtain ⟨hresult, -⟩ :=
    aliasEmbeds_at_once songs songsOfArtists (by decide +kernel) (by decide +kernel)
  rw [hresult]
  refine ⟨?_, by decide +kernel⟩
  have hembeds : songsOfArtists.embeds = [⟨"artist"⟩, ⟨"label"⟩, ⟨"song"⟩] := by decide
  intro embed hembed
  obtain rfl | rfl | rfl : embed = ⟨"artist"⟩ ∨ embed = ⟨"label"⟩ ∨ embed = ⟨"song"⟩ := by
    simpa [hembeds] using hembed
  · exact ⟨_, rfl, fun _ => by decide +kernel⟩
  · exact ⟨_, rfl, fun hcolumns => absurd rfl hcolumns⟩
  · exact ⟨_, rfl, fun _ => by decide +kernel⟩

end TypedSql.Query
