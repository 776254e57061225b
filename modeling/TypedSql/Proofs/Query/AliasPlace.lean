import TypedSql.Proofs.Query.Alias

/-!
The places where lists of columns get their aliases. Each search takes the first place of a list in
the text that the earlier ones have left, and does not ask what stands around it. A place is whole
if no word runs into it from either side. It is whole at least where the first place of each list
in the text of the query is delimited: the aliases of one list then leave the first place of another
the first, and delimited. Without that, a list may be found inside a longer one.
-/

namespace TypedSql.Text

/-- Where the pattern first stands in the text, it stands between closed ends. -/
def FirstDelimited (pattern text : List Char) : Prop :=
  ∀ parts ∈ cut? pattern text, ClosedLeft parts.1 ∧ ClosedRight parts.2

instance (pattern text : List Char) : Decidable (FirstDelimited pattern text) :=
  inferInstanceAs (Decidable (∀ _ ∈ _, _))

/-- The first place of a pattern stays delimited when a piece that begins and ends with word
characters gives way to another one, if the pattern is apart from both. -/
theorem FirstDelimited.replace {pattern before old new after : List Char} (hpattern : pattern ≠ [])
    (h : FirstDelimited pattern (before ++ (old ++ after))) (hold : Apart pattern before old after)
    (hnew : Apart pattern before new after) (hne : old ≠ [])
    (hhead : ∀ c ∈ old.head?, isWordChar c = true)
    (hlast : ∀ c ∈ old.getLast?, isWordChar c = true) :
    FirstDelimited pattern (before ++ (new ++ after)) := by
  have hlength := List.length_pos_iff.mpr hpattern
  rintro ⟨left, right⟩ hcut
  obtain ⟨heq, hfirst⟩ := cut?_eq_some_iff.mp hcut
  rcases hnew left right heq with hend | hbegin
  · obtain ⟨between, rfl, hsame⟩ := cut?_front hcut hend
    obtain ⟨hleft, hright⟩ := h _ (hsame (old ++ after))
    exact ⟨hleft, hright.replace hne hhead _⟩
  · have hsplit : (before ++ new) ++ after = left ++ (pattern ++ right) := by simpa using heq.symm
    obtain ⟨between, rfl, rfl⟩ := exists_between hsplit (by simpa using hbegin)
    have hcut' : cut? pattern (before ++ (old ++ (between ++ (pattern ++ right)))) =
        some (before ++ (old ++ between), right) := by
      refine cut?_eq_some_iff.mpr ⟨by simp, ?_⟩
      intro left' right' heq'
      rcases hold left' right' heq' with hend' | hbegin'
      · have hsplit' : (left' ++ pattern) ++ right' =
            before ++ (old ++ (between ++ (pattern ++ right))) := by simpa using heq'
        obtain ⟨between', rfl, -⟩ := exists_between hsplit' (by simpa using hend')
        have hle := hfirst left' (between' ++ (new ++ (between ++ (pattern ++ right)))) (by simp)
        simp only [List.length_append] at hle
        omega
      · have hsplit' : (before ++ old) ++ (between ++ (pattern ++ right)) =
            left' ++ (pattern ++ right') := by simpa using heq'.symm
        obtain ⟨between', rfl, hrest⟩ := exists_between hsplit' (by simpa using hbegin')
        have hle := hfirst (before ++ new ++ between') right' (by simp [hrest])
        simp only [List.length_append] at hle ⊢
        omega
    obtain ⟨hleft, hright⟩ := h _ hcut'
    exact ⟨hleft.replace hne hlast _, hright⟩

end TypedSql.Text

namespace TypedSql.Query

open Text

/-- A place where the list of an embedded table's columns stands, with the text before and after. -/
structure AliasPlace where
  embed : Identifier
  columns : List Column
  before : List Char
  after : List Char
deriving DecidableEq

namespace AliasPlace

def list (place : AliasPlace) : List Char :=
  (referenceList place.embed place.columns).toList

def source (place : AliasPlace) : List Char :=
  place.before ++ (place.list ++ place.after)

def target (place : AliasPlace) : List Char :=
  place.before ++ ((aliasedList place.embed place.columns).toList ++ place.after)

/-- No word character stands right before the list or right after it. -/
def Whole (place : AliasPlace) : Prop :=
  ClosedLeft place.before ∧ ∀ c ∈ place.after.head?, isWordChar c = false

instance (place : AliasPlace) : Decidable place.Whole :=
  inferInstanceAs (Decidable (_ ∧ ∀ _ ∈ _, _))

/-- Places that lead from one text to another: each stands in the text that the one before it
leaves. -/
def Leads : List AliasPlace → List Char → List Char → Prop
  | [], text, text' => text' = text
  | place :: rest, text, text' => place.source = text ∧ Leads rest place.target text'

end AliasPlace

def aliasPlace? (catalog : Catalog) (embed : Identifier) (text : List Char) : Option AliasPlace :=
  match catalog.table? embed with
  | none => none
  | some table =>
    if table.columns = [] then none
    else (cut? (referenceList embed table.columns).toList text).map fun (before, after) =>
      ⟨embed, table.columns, before, after⟩

def aliasPlaces (catalog : Catalog) : List Identifier → List Char → List AliasPlace
  | [], _ => []
  | embed :: rest, text =>
    match aliasPlace? catalog embed text with
    | none => aliasPlaces catalog rest text
    | some place => place :: aliasPlaces catalog rest place.target

/-- The places at which the embeds of a query get their aliases. -/
def embedPlaces (catalog : Catalog) (query : Query) : List AliasPlace :=
  aliasPlaces catalog query.distinctEmbeds query.text.toList

def hasColumns (catalog : Catalog) (embed : Identifier) : Bool :=
  (catalog.table? embed).any fun table => !table.columns.isEmpty

/-- The list of every embedded table is delimited where it first stands in the text. -/
def FirstsDelimited (catalog : Catalog) (embeds : List Identifier) (text : List Char) : Prop :=
  ∀ embed ∈ embeds, ∀ pair ∈ aliasPair? catalog embed, FirstDelimited pair.1 text

instance (catalog : Catalog) (embeds : List Identifier) (text : List Char) :
    Decidable (FirstsDelimited catalog embeds text) :=
  inferInstanceAs (Decidable (∀ _ ∈ _, ∀ _ ∈ _, _))

section Places

variable {catalog : Catalog} {query : Query} {embed : Identifier} {embeds : List Identifier}
  {text text' : List Char} {place : AliasPlace}

theorem aliasPlace?_eq_some :
    aliasPlace? catalog embed text = some place ↔ ∃ table, catalog.table? embed = some table ∧
      table.columns ≠ [] ∧ place.embed = embed ∧ place.columns = table.columns ∧
      cut? place.list text = some (place.before, place.after) := by
  obtain ⟨embed', columns, before, after⟩ := place
  cases htable : catalog.table? embed with
  | none => simp [aliasPlace?, htable]
  | some table =>
      by_cases hcolumns : table.columns = []
      · simp [aliasPlace?, htable, hcolumns]
      · simp only [aliasPlace?, htable, hcolumns, if_false, Option.map_eq_some_iff, AliasPlace.list]
        constructor
        · rintro ⟨parts, hcut, hplace⟩
          obtain ⟨rfl, rfl, rfl, rfl⟩ := AliasPlace.mk.inj hplace
          exact ⟨table, rfl, hcolumns, rfl, rfl, hcut⟩
        · rintro ⟨table', hsame, -, rfl, rfl, hcut⟩
          obtain rfl := Option.some.inj hsame
          exact ⟨_, hcut, rfl⟩

/-- The step: the text gets aliases at the first place of the list, or the table has no columns. -/
theorem result_aliasEmbed_place (h : (aliasEmbed catalog query text embed).result = .ok text') :
    (aliasPlace? catalog embed text = none ∧ hasColumns catalog embed = false ∧ text' = text) ∨
      ∃ place, aliasPlace? catalog embed text = some place ∧ hasColumns catalog embed = true ∧
        place.source = text ∧ place.target = text' := by
  obtain ⟨⟨table, htable⟩, hturn⟩ := result_aliasEmbed.mp h
  by_cases hcolumns : table.columns = []
  · left
    have hpair : aliasPair? catalog embed = none := by simp [aliasPair?, htable, hcolumns]
    rw [hpair] at hturn
    exact ⟨by simp [aliasPlace?, htable, hcolumns], by simp [hasColumns, htable, hcolumns],
      (Option.some.inj hturn).symm⟩
  · right
    rw [aliasPair?_eq_some.mpr ⟨table, htable, hcolumns, rfl⟩] at hturn
    obtain ⟨replaced, hfirst, hlast⟩ := Option.bind_eq_some_iff.mp hturn
    obtain rfl : replaced = text' := Option.some.inj hlast
    obtain ⟨⟨before, after⟩, hcut, rfl⟩ := Option.map_eq_some_iff.mp hfirst
    refine ⟨⟨embed, table.columns, before, after⟩, ?_, ?_, cut?_append hcut, rfl⟩
    · exact aliasPlace?_eq_some.mpr ⟨table, htable, hcolumns, rfl, rfl, hcut⟩
    · simp [hasColumns, htable, hcolumns]

/-- The run: every embed with columns has its place, and the places lead to the result. -/
theorem leads_aliasPlaces (h : (aliasAll catalog query embeds text).result = .ok text') :
    AliasPlace.Leads (aliasPlaces catalog embeds text) text text' ∧
      (aliasPlaces catalog embeds text).map AliasPlace.embed =
        embeds.filter (hasColumns catalog) := by
  induction embeds generalizing text with
  | nil =>
      obtain rfl : text = text' := Except.ok.inj h
      exact ⟨rfl, rfl⟩
  | cons embed rest ih =>
      rw [result_aliasAll_cons] at h
      cases hstep : (aliasEmbed catalog query text embed).result with
      | error failure =>
          rw [hstep] at h
          cases h
      | ok middle =>
          rw [hstep] at h
          obtain ⟨hleads, hembeds⟩ := ih h
          rcases result_aliasEmbed_place hstep with
            ⟨hplace, hcolumns, rfl⟩ | ⟨place, hplace, hcolumns, hsource, rfl⟩
          · rw [aliasPlaces, hplace, List.filter_cons_of_neg (by simp [hcolumns])]
            exact ⟨hleads, hembeds⟩
          · obtain ⟨table, -, -, hembed, -⟩ := aliasPlace?_eq_some.mp hplace
            rw [aliasPlaces, hplace, List.filter_cons_of_pos hcolumns]
            exact ⟨⟨hsource, hleads⟩, by rw [List.map_cons, hembed, hembeds]⟩

/-- Every place is the first one of its list in its own text. -/
theorem cut?_of_mem_aliasPlaces (h : place ∈ aliasPlaces catalog embeds text) :
    place.embed ∈ embeds ∧
      (∃ table, catalog.table? place.embed = some table ∧ place.columns = table.columns) ∧
      cut? place.list place.source = some (place.before, place.after) := by
  induction embeds generalizing text with
  | nil => cases h
  | cons embed rest ih =>
      rw [aliasPlaces] at h
      cases hplace : aliasPlace? catalog embed text with
      | none =>
          rw [hplace] at h
          obtain ⟨hmem, hrest⟩ := ih h
          exact ⟨List.mem_cons_of_mem embed hmem, hrest⟩
      | some first =>
          rw [hplace] at h
          rcases List.mem_cons.mp h with rfl | h
          · obtain ⟨table, htable, -, rfl, hcolumns, hcut⟩ := aliasPlace?_eq_some.mp hplace
            have hsource : place.source = text := cut?_append hcut
            rw [hsource]
            exact ⟨List.mem_cons_self, ⟨table, htable, hcolumns⟩, hcut⟩
          · obtain ⟨hmem, hrest⟩ := ih h
            exact ⟨List.mem_cons_of_mem embed hmem, hrest⟩

/-- Aliases at a delimited place leave the first place of another table's list delimited. -/
theorem firstDelimited_target {table : List Char} {pattern : List Char}
    (h : ListsColumns table pattern) (hembed : IsWord place.embed.name.toList)
    (hne : place.columns ≠ []) (hcolumns : ∀ column ∈ place.columns, IsWord column.name.toList)
    (hother : table ≠ place.embed.name.toList) (hbefore : ClosedLeft place.before)
    (hafter : ClosedRight place.after) (hfirst : FirstDelimited pattern place.source) :
    FirstDelimited pattern place.target := by
  have hshape := listsColumns_referenceList hembed hne hcolumns
  have hapart (hold : Apart pattern place.before place.list place.after) :
      FirstDelimited pattern place.target := by
    have hnew := apart_aliasedList h hembed hcolumns hafter hold
    exact hfirst.replace h.ne_nil hold hnew hshape.ne_nil hshape.head_word hshape.last
  cases hcut : cut? pattern place.source with
  | none =>
      apply hapart
      intro left right heq
      have hmem : left.length ∈ positions pattern place.source :=
        mem_positions.mpr ⟨left, right, heq, rfl⟩
      rw [cut?_eq_none_iff.mp hcut] at hmem
      cases hmem
  | some parts =>
      obtain ⟨left, right⟩ := parts
      obtain ⟨hleft, hright⟩ := hfirst _ hcut
      obtain ⟨heq, hearliest⟩ := cut?_eq_some_iff.mp hcut
      rcases h.outside hshape hother hbefore hafter hleft hright heq with hend | hbegin
      · obtain ⟨between, rfl, hsame⟩ := cut?_front hcut hend
        rintro parts hparts
        obtain rfl := Option.some.inj ((hsame _).symm.trans hparts)
        exact ⟨hleft, hright.replace hshape.ne_nil hshape.head_word _⟩
      · apply hapart
        intro left' right' heq'
        have hle := hearliest left' right' heq'
        exact Or.inr (hbegin.trans hle)

/-- The run: where the first places of all lists are delimited, aliases are given there. -/
theorem whole_aliasPlaces (hdistinct : embeds.Nodup) (hnames : ProperNames catalog embeds)
    (hfirsts : FirstsDelimited catalog embeds text) :
    ∀ place ∈ aliasPlaces catalog embeds text, place.Whole := by
  induction embeds generalizing text with
  | nil => simp [aliasPlaces]
  | cons embed rest ih =>
      obtain ⟨hhead, htail⟩ := List.nodup_cons.mp hdistinct
      have hnames' := hnames.subset (List.subset_cons_self embed rest)
      have hfirsts' : FirstsDelimited catalog rest text :=
        fun later hlater => hfirsts later (List.mem_cons_of_mem embed hlater)
      rw [aliasPlaces]
      cases hplace : aliasPlace? catalog embed text with
      | none => exact ih htail hnames' hfirsts'
      | some place =>
          obtain ⟨table, htable, hne, rfl, hcolumns, hcut⟩ := aliasPlace?_eq_some.mp hplace
          obtain ⟨hword, hwords⟩ := hnames _ List.mem_cons_self table htable
          have hpair := aliasPair?_eq_some.mpr ⟨table, htable, hne, rfl⟩
          have hlist : FirstDelimited place.list text := by
            rw [AliasPlace.list, hcolumns]
            exact hfirsts _ List.mem_cons_self _ hpair
          obtain ⟨hbefore, hafter⟩ := hlist _ hcut
          have hsource : place.source = text := cut?_append hcut
          refine List.forall_mem_cons.mpr ⟨⟨hbefore, fun c hc => (hafter c hc).1⟩, ?_⟩
          apply ih htail hnames'
          intro later hlater pair hpair'
          have hfirst := hfirsts' later hlater pair hpair'
          obtain ⟨table', htable', hne', rfl⟩ := aliasPair?_eq_some.mp hpair'
          obtain ⟨hword', hwords'⟩ := hnames' later hlater table' htable'
          have hother : later ≠ place.embed := by
            rintro rfl
            exact hhead hlater
          rw [← hcolumns] at hne hwords
          rw [← hsource] at hfirst
          exact firstDelimited_target (listsColumns_referenceList hword' hne' hwords') hword hne
            hwords (toList_name_ne hother) hbefore hafter hfirst

end Places

/-- Aliases are given where each list first stands, and at whole references if the query has it so.
If aliases can be given, there is one place for every embedded table with columns, the places lead
from the text of the query to the result, and each is the first match of the list of all columns of
its table in the text it stands in. If the names are words and each list is delimited where it first
stands in the text of the query, no place follows or precedes a word character at once. This does
not ask anything of the later matches. -/
theorem embedPlaces_whole (catalog : Catalog) (query : Query) (text : String)
    (h : (query.aliasEmbeds catalog).result = .ok text)
    (hnames : ProperNames catalog query.embeds) :
    AliasPlace.Leads (embedPlaces catalog query) query.text.toList text.toList ∧
    (embedPlaces catalog query).map AliasPlace.embed =
      query.distinctEmbeds.filter (hasColumns catalog) ∧
    (∀ place ∈ embedPlaces catalog query,
      (∃ table, catalog.table? place.embed = some table ∧ place.columns = table.columns) ∧
      cut? place.list place.source = some (place.before, place.after)) ∧
    (FirstsDelimited catalog query.embeds query.text.toList →
      ∀ place ∈ embedPlaces catalog query, place.Whole) := by
  obtain ⟨hleads, hembeds⟩ := leads_aliasPlaces (result_aliasEmbeds.mp h)
  refine ⟨hleads, hembeds, ?_, ?_⟩
  · intro place hplace
    obtain ⟨-, htable, hcut⟩ := cut?_of_mem_aliasPlaces hplace
    exact ⟨htable, hcut⟩
  · intro hfirsts
    apply whole_aliasPlaces query.nodup_distinctEmbeds
    · exact hnames.subset query.distinctEmbeds_subset
    · intro embed hembed
      exact hfirsts embed (query.distinctEmbeds_subset hembed)

def songsByLength : Query where
  name := "SongsByLength"
  command := .many
  text := "SELECT song.id, song.title, artist.id FROM song ORDER BY song.id, song.title_length"
  columns := [{ name := "artist", embedTable := some ⟨"artist"⟩ },
    { name := "song", embedTable := some ⟨"song"⟩ }]

theorem embedPlaces_songsByLength :
    (embedPlaces songs songsByLength).map AliasPlace.embed = [⟨"artist"⟩, ⟨"song"⟩] ∧
      ∀ place ∈ embedPlaces songs songsByLength, place.Whole := by
  have hresult : (songsByLength.aliasEmbeds songs).result =
      .ok ("SELECT song.id AS song_id, song.title AS song_title, artist.id AS artist_id " ++
        "FROM song ORDER BY song.id, song.title_length") := by
    decide +kernel
  obtain ⟨-, hembeds, -, hwhole⟩ :=
    embedPlaces_whole songs songsByLength _ hresult (by decide +kernel)
  refine ⟨?_, hwhole (by decide +kernel)⟩
  rw [hembeds]
  decide

def seats : Catalog where
  schemas := [{ tables := [⟨⟨"seat"⟩, [{ name := "id" }, { name := "row" }]⟩] }]

def seatRows : Query where
  name := "SeatRows"
  command := .many
  text := "SELECT seat.id, seat.rowid, seat.id, seat.row FROM seat"
  columns := [{ name := "id" }, { name := "rowid" },
    { name := "seat", embedTable := some ⟨"seat"⟩ }]

/-- The list of the table is found where the longer name begins. -/
def rowidPlace : AliasPlace where
  embed := ⟨"seat"⟩
  columns := [{ name := "id" }, { name := "row" }]
  before := "SELECT ".toList
  after := "id, seat.id, seat.row FROM seat".toList

/-- A list can be found inside a longer one, where its last name begins a longer name. -/
theorem embedPlaces_seatRows :
    ¬ ∀ (catalog : Catalog) (query : Query) (text : String),
      ProperNames catalog query.embeds → (query.aliasEmbeds catalog).result = .ok text →
        ∀ place ∈ embedPlaces catalog query, place.Whole := by
  intro hall
  have hresult : (seatRows.aliasEmbeds seats).result =
      .ok ("SELECT seat.id AS seat_id, seat.row AS seat_rowid, " ++
        "seat.id, seat.row FROM seat") := by
    decide +kernel
  have hcut : cut? rowidPlace.list seatRows.text.toList =
      some (rowidPlace.before, rowidPlace.after) := by
    decide +kernel
  have hplace : aliasPlace? seats ⟨"seat"⟩ seatRows.text.toList = some rowidPlace :=
    aliasPlace?_eq_some.mpr ⟨_, rfl, List.cons_ne_nil _ _, rfl, rfl, hcut⟩
  have hmem : rowidPlace ∈ embedPlaces seats seatRows := by
    have hembeds : seatRows.distinctEmbeds = [⟨"seat"⟩] := by decide
    rw [embedPlaces, hembeds, aliasPlaces, hplace]
    exact List.mem_cons_self
  obtain ⟨-, hafter⟩ := hall seats seatRows _ (by decide +kernel) hresult rowidPlace hmem
  exact absurd (hafter 'i' rfl) (by decide)

end TypedSql.Query
