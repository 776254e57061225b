import Mathlib.Algebra.GroupWithZero.Nat
import TypedSql.Proofs.Query.AliasPlace
import TypedSql.Proofs.Text.ByteOrder
import TypedSql.Proofs.Text.Insertion

/-!
What aliases leave of a text. Whatever the names are, and even where a list is found inside the
aliases of an earlier one, giving a table its aliases puts one piece after each reference of its
list and changes nothing else. So the text of the query can be read off the result, table by table
from the last one to the first.
-/

namespace TypedSql.Query

open Text

def embeddedColumns (catalog : Catalog) (embed : Identifier) : List Column :=
  (catalog.table? embed).elim [] Table.columns

def aliasSuffix (embed : Identifier) (column : Column) : String :=
  " AS " ++ column.embeddedName embed

/-- The aliases of a list of references that stands at a position. The position of each counts the
aliases before it. -/
def aliasInsertions (embed : Identifier) (position : Nat) : List Column → List (Insertion Char)
  | [] => []
  | column :: rest =>
    ⟨position + (reference embed column).length, (aliasSuffix embed column).toList⟩ ::
      aliasInsertions embed (position + (aliased embed column).length + ", ".length) rest

namespace AliasPlace

/-- What comes into the text at the place. -/
def insertions (place : AliasPlace) : List (Insertion Char) :=
  aliasInsertions place.embed place.before.length place.columns

/-- The text before its list got aliases at the place, the last alias being taken out first. -/
def undo? (place : AliasPlace) (text : List Char) : Option (List Char) :=
  Insertion.undoAll? place.insertions text

end AliasPlace

section Insertions

variable {catalog : Catalog} {query : Query} {embed : Identifier} {places : List AliasPlace}
  {text text' : List Char}

theorem map_piece_aliasInsertions (embed : Identifier) (position : Nat) (columns : List Column) :
    (aliasInsertions embed position columns).map Insertion.piece =
      columns.map fun column => (aliasSuffix embed column).toList := by
  induction columns generalizing position with
  | nil => rfl
  | cons column rest ih => rw [aliasInsertions, List.map_cons, List.map_cons, ih]

theorem leads_aliasInsertions (embed : Identifier) (before after : List Char)
    (columns : List Column) :
    Insertion.Leads (aliasInsertions embed before.length columns)
      (before ++ ((referenceList embed columns).toList ++ after))
      (before ++ ((aliasedList embed columns).toList ++ after)) := by
  have hmake (before rest : List Char) (column : Column) :
      Insertion.make ⟨before.length + (reference embed column).length,
          (aliasSuffix embed column).toList⟩
        (before ++ ((reference embed column).toList ++ rest)) =
          before ++ ((aliased embed column).toList ++ rest) := by
    have happend := Insertion.make_append (before ++ (reference embed column).toList) rest
      (aliasSuffix embed column).toList
    simpa [toList_aliased, aliasSuffix, String.length_toList] using happend
  induction columns generalizing before with
  | nil => rfl
  | cons column rest ih =>
      refine ⟨?_, ?_⟩
      · cases rest <;>
          simp [referenceList_singleton, referenceList_cons, String.length_toList, Nat.add_assoc]
      · cases rest with
        | nil =>
            rw [referenceList_singleton, aliasedList_singleton, hmake]
            rfl
        | cons next rest =>
            have hrest := ih (before ++ ((aliased embed column).toList ++ [',', ' ']))
            have hposition : (before ++ ((aliased embed column).toList ++ [',', ' '])).length =
                before.length + (aliased embed column).length + ", ".length := by
              rw [List.length_append, List.length_append, String.length_toList, Nat.add_assoc]
              rfl
            rw [hposition] at hrest
            rw [referenceList_cons, aliasedList_cons, List.append_assoc, hmake]
            simpa using hrest

theorem AliasPlace.leads_insertions (place : AliasPlace) :
    Insertion.Leads place.insertions place.source place.target :=
  leads_aliasInsertions place.embed place.before place.after place.columns

/-- The run: the aliases of all places, one place after the other. -/
theorem leads_flatMap_insertions (h : AliasPlace.Leads places text text') :
    Insertion.Leads (places.flatMap AliasPlace.insertions) text text' := by
  induction places generalizing text with
  | nil => exact h
  | cons place rest ih =>
      obtain ⟨rfl, hrest⟩ := h
      rw [List.flatMap_cons]
      exact place.leads_insertions.append (ih hrest)

/-- The run, undone: the last place is the first to lose its aliases. -/
theorem undo?_of_leads (h : AliasPlace.Leads places text text') :
    places.reverse.foldlM (fun text place => place.undo? text) text' = some text := by
  induction places generalizing text with
  | nil =>
      obtain rfl : text' = text := h
      rfl
  | cons place rest ih =>
      obtain ⟨rfl, hrest⟩ := h
      rw [List.reverse_cons, List.foldlM_append, ih hrest]
      change place.undo? place.target >>= pure = _
      rw [AliasPlace.undo?, place.leads_insertions.undoAll?_eq]
      rfl

/-- The aliases of a place are those of the columns of its table. -/
theorem map_piece_insertions {place : AliasPlace} {embeds : List Identifier}
    (h : place ∈ aliasPlaces catalog embeds text) :
    place.insertions.map Insertion.piece =
      (embeddedColumns catalog place.embed).map fun column =>
        (aliasSuffix place.embed column).toList := by
  obtain ⟨-, ⟨table, htable, hcolumns⟩, -⟩ := cut?_of_mem_aliasPlaces h
  rw [AliasPlace.insertions, map_piece_aliasInsertions, hcolumns, embeddedColumns, htable]
  rfl

theorem hasColumns_eq_false_iff :
    hasColumns catalog embed = false ↔ embeddedColumns catalog embed = [] := by
  cases htable : catalog.table? embed <;> simp [hasColumns, embeddedColumns, htable]

def aliasText (catalog : Catalog) (embed : Identifier) : List Char :=
  (embeddedColumns catalog embed).flatMap fun column => (aliasSuffix embed column).toList

theorem aliasText_eq_nil_iff :
    aliasText catalog embed = [] ↔ embeddedColumns catalog embed = [] := by
  rw [aliasText, List.flatMap_eq_nil_iff, List.eq_nil_iff_forall_not_mem]
  simp [aliasSuffix]

theorem flatMap_filter_hasColumns (embeds : List Identifier) :
    (embeds.filter (hasColumns catalog)).flatMap (aliasText catalog) =
      embeds.flatMap (aliasText catalog) := by
  induction embeds with
  | nil => rfl
  | cons embed rest ih =>
      cases hcolumns : hasColumns catalog embed with
      | true => rw [List.filter_cons_of_pos hcolumns, List.flatMap_cons, List.flatMap_cons, ih]
      | false =>
          have hnone := aliasText_eq_nil_iff.mpr (hasColumns_eq_false_iff.mp hcolumns)
          rw [List.filter_cons_of_neg (by simp [hcolumns]), List.flatMap_cons, hnone, ih,
            List.nil_append]

/-- All that comes into the text: the aliases of all tables, each once. -/
theorem flatMap_piece_insertions {embeds : List Identifier}
    (hembeds : (aliasPlaces catalog embeds text).map AliasPlace.embed =
      embeds.filter (hasColumns catalog)) :
    ((aliasPlaces catalog embeds text).flatMap AliasPlace.insertions).flatMap Insertion.piece =
      embeds.flatMap (aliasText catalog) := by
  rw [← flatMap_filter_hasColumns, ← hembeds, List.flatMap_assoc, List.flatMap_map]
  apply List.flatMap_congr
  intro place hplace
  rw [List.flatMap_def, map_piece_insertions hplace, ← List.flatMap_def, aliasText]

end Insertions

/-- Giving aliases only adds them. Whatever names and text are, the result is the text of the query
with one piece after each reference of every embedded table's list, each table once; in particular
the text is a subsequence of the result, and both are the same only if no embedded table has a
column. Taking the pieces out again, the last table first, gives the text of the query back. -/
theorem aliasEmbeds_inserts (catalog : Catalog) (query : Query) (text : String)
    (h : (query.aliasEmbeds catalog).result = .ok text) :
    query.text.toList.Sublist text.toList ∧
    text.length = query.text.length +
      (query.distinctEmbeds.map fun embed => ((embeddedColumns catalog embed).map fun column =>
        (aliasSuffix embed column).length).sum).sum ∧
    (Utf8.encode text).length = (Utf8.encode query.text).length +
      (query.distinctEmbeds.map fun embed => ((embeddedColumns catalog embed).map fun column =>
        (Utf8.encode (aliasSuffix embed column)).length).sum).sum ∧
    (text = query.text ↔ ∀ embed ∈ query.embeds, embeddedColumns catalog embed = []) ∧
    Insertion.makeAll ((embedPlaces catalog query).flatMap AliasPlace.insertions)
      query.text.toList = text.toList ∧
    (embedPlaces catalog query).reverse.foldlM (fun text place => place.undo? text) text.toList =
      some query.text.toList ∧
    (embedPlaces catalog query).map AliasPlace.embed =
      query.distinctEmbeds.filter (hasColumns catalog) ∧
    (∀ place ∈ embedPlaces catalog query, place.insertions.map Insertion.piece =
      (embeddedColumns catalog place.embed).map fun column =>
        (aliasSuffix place.embed column).toList) := by
  obtain ⟨hleads, hembeds⟩ := leads_aliasPlaces (result_aliasEmbeds.mp h)
  have hinserts := leads_flatMap_insertions hleads
  have hpieces := flatMap_piece_insertions hembeds
  have hperm := hinserts.perm
  rw [hpieces] at hperm
  refine ⟨hinserts.sublist, ?_, ?_, ?_, hinserts.makeAll_eq, undo?_of_leads hleads, hembeds,
    fun place hplace => map_piece_insertions hplace⟩
  · have hlength := hperm.length_eq
    simpa [aliasText, List.length_flatMap, String.length_toList] using hlength
  · have hlength := (hperm.flatMap_right String.utf8EncodeChar).length_eq
    simpa [Utf8.encode_eq, aliasText, List.flatMap_assoc, List.length_flatMap] using hlength
  · rw [← String.toList_inj, hinserts.eq_iff, hpieces, List.flatMap_eq_nil_iff]
    simp only [mem_distinctEmbeds, aliasText_eq_nil_iff]

/-- A table with a dot in the name of a column, and one whose list is the alias of that column. -/
def songLists : Catalog where
  schemas := [{ tables := [⟨⟨"song"⟩, [{ name := "list.id" }]⟩,
    ⟨⟨"song_list"⟩, [{ name := "id" }]⟩] }]

/-- The list of the second table stands nowhere but in the alias of the first one. -/
def listsOfSongs : Query where
  name := "ListsOfSongs"
  command := .many
  text := "SELECT song.list.id FROM song"
  columns := [{ name := "song", embedTable := some ⟨"song"⟩ },
    { name := "list", embedTable := some ⟨"song_list"⟩ },
    { name := "again", embedTable := some ⟨"song"⟩ }]

theorem aliasEmbeds_listsOfSongs :
    (listsOfSongs.aliasEmbeds songLists).result =
      .ok "SELECT song.list.id AS song_list.id AS song_list_id FROM song" ∧
    (embedPlaces songLists listsOfSongs).reverse.foldlM (fun text place => place.undo? text)
      "SELECT song.list.id AS song_list.id AS song_list_id FROM song".toList =
        some "SELECT song.list.id FROM song".toList := by
  have hresult : (listsOfSongs.aliasEmbeds songLists).result =
      .ok "SELECT song.list.id AS song_list.id AS song_list_id FROM song" := by
    decide +kernel
  obtain ⟨-, -, -, -, -, hundo, -⟩ := aliasEmbeds_inserts songLists listsOfSongs _ hresult
  exact ⟨hresult, hundo⟩

end TypedSql.Query
