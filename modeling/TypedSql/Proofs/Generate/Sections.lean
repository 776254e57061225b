import Mathlib.Data.List.Forall2
import Mathlib.Data.List.Sort
import TypedSql.Proofs.Generate.DeclaredNames

/-!
The sections of queries in the generated file. All steps of a section begin at the depth of the file
and lead back to it, so a section has a text of its own, and the file is a header, the sections of
its queries in their order, and a helper at the end. What a query is bound to does not depend on
other queries either. Hence a section stays the same, byte by byte, whatever queries stand beside
it.
-/

namespace TypedSql

/-- The order of the members and their number do not count. -/
theorem Text.sortedDistinct_congr {texts texts' : List String}
    (h : ∀ text, text ∈ texts ↔ text ∈ texts') : sortedDistinct texts = sortedDistinct texts' := by
  refine (pairwise_sortedDistinct texts).eq_of_mem_iff (pairwise_sortedDistinct texts') ?_
  intro text
  rw [mem_sortedDistinct, mem_sortedDistinct, h text]

namespace Script

open Step

def headerText (options : Options) (models : List String) (banner : String) : String :=
  render (header options (Text.sortedDistinct models) banner)

def sectionText (options : Options) (binding : Binding) : String :=
  render (sectionLines options binding)

def footerText (bindings : List Binding) : String :=
  if bindings.any fun binding => binding.slices.isSome then expandedParam else ""

theorem render_footer_eq (bindings : List Binding) :
    render (footer bindings) = footerText bindings := by
  rw [footer, footerText]
  split
  · rw [render_verbatim, render_nil, String.append_empty]
  · rfl

theorem querierText_eq_sections (bindings : List Binding) (options : Options) (banner : String) :
    querierText bindings options banner =
      headerText options (bindings.flatMap fun binding => binding.signature.models) banner ++
        String.join (bindings.map (sectionText options)) ++ footerText bindings := by
  rw [querierText_eq_parts, render_footer_eq]
  rfl

end Script

open Script

/-- The request is accepted, and its queries have these sections in the file of query functions.
Each is the section of what its query alone is bound to, and they stand one after the other between
a header for the models of all queries and the helper. -/
def Request.HasSections (request : Request) (sections : List String) : Prop :=
  ∃ models bindings,
    List.Forall₂ (fun query binding =>
        (Query.bind request.catalog (.ofOverrides request.overrides) query).result = .ok binding)
      request.queries bindings ∧
    sections = bindings.map (sectionText request.options) ∧
    (generate request).result = .ok [⟨Generator.modelsFile, models⟩,
      ⟨Generator.querierFile,
        headerText request.options (bindings.flatMap fun binding => binding.signature.models)
            request.banner ++
          String.join sections ++ footerText bindings⟩]

namespace Request

variable {request request' : Request} {sections sections' : List String}

/-- Generation succeeds as soon as all queries can be bound. -/
theorem hasSections_iff : request.HasSections sections ↔
    ∃ bindings, (bindAll request.catalog request.types request.queries).result = .ok bindings ∧
      sections = bindings.map (sectionText request.options) := by
  constructor
  · rintro ⟨-, bindings, hbindings, hsections, -⟩
    exact ⟨bindings, bindAll_ok.mpr hbindings, hsections⟩
  · rintro ⟨bindings, hbindings, rfl⟩
    refine ⟨modelsText request.catalog request.types request.banner, bindings,
      bindAll_ok.mp hbindings, rfl, ?_⟩
    rw [← querierText_eq_sections]
    exact generate_ok.mpr ⟨bindings, hbindings, rfl⟩

theorem accepted_iff_hasSections :
    (∃ files, (generate request).result = .ok files) ↔
      ∃ sections, request.HasSections sections := by
  constructor
  · rintro ⟨files, hfiles⟩
    obtain ⟨bindings, hbindings, -⟩ := generate_ok.mp hfiles
    exact ⟨_, hasSections_iff.mpr ⟨bindings, hbindings, rfl⟩⟩
  · rintro ⟨_, _, _, _, _, hfiles⟩
    exact ⟨_, hfiles⟩

/-- The section of the query at some place is the section of what this query is bound to. -/
theorem HasSections.getElem? (h : request.HasSections sections) {place : Nat} {query : Query}
    (hquery : request.queries[place]? = some query) :
    ∃ binding, (query.bind request.catalog request.types).result = .ok binding ∧
      sections[place]? = some (sectionText request.options binding) := by
  obtain ⟨bindings, hbindings, rfl⟩ := hasSections_iff.mp h
  obtain ⟨hlength, hall⟩ := List.forall₂_iff_get.mp (bindAll_ok.mp hbindings)
  obtain ⟨hplace, rfl⟩ := List.getElem?_eq_some_iff.mp hquery
  have hplace' : place < bindings.length := hlength ▸ hplace
  refine ⟨bindings[place], hall place hplace hplace', ?_⟩
  rw [List.getElem?_map, List.getElem?_eq_getElem hplace', Option.map_some]

/-- Queries that stand one after the other are accepted if both lists are, and their sections are
those of the first list and then those of the second. -/
theorem hasSections_append {queries queries' : List Query} :
    { request with queries := queries ++ queries' }.HasSections sections ↔
      ∃ first second, { request with queries := queries }.HasSections first ∧
        { request with queries := queries' }.HasSections second ∧ sections = first ++ second := by
  simp only [hasSections_iff, bindAll_ok]
  constructor
  · rintro ⟨bindings, hbindings, rfl⟩
    have hfirst := (List.forall₂_take_append _ _ _ hbindings.flip).flip
    have hsecond := (List.forall₂_drop_append _ _ _ hbindings.flip).flip
    refine ⟨_, _, ⟨_, hfirst, rfl⟩, ⟨_, hsecond, rfl⟩, ?_⟩
    rw [← List.map_append, List.take_append_drop]
  · rintro ⟨_, _, ⟨first, hfirst, rfl⟩, ⟨second, hsecond, rfl⟩, rfl⟩
    exact ⟨first ++ second, List.rel_append hfirst hsecond, List.map_append.symm⟩

end Request

/-- The section of a query does not depend on the queries beside it. The file of query functions is
a header, the sections of what its queries are bound to, and the helper if some query has a list
parameter; of the queries, the header depends on the set of models that they use, and on nothing
else. A query is bound by itself, with the catalog and the overrides. So if two requests agree in
these and in the options, a query of both has the same section in both files, wherever it stands;
and the sections of two lists of queries, one after the other, are those of the first and then those
of the second. -/
theorem sections_independent :
    (∀ bindings options banner, querierText bindings options banner =
      headerText options (bindings.flatMap fun binding => binding.signature.models) banner ++
        String.join (bindings.map (sectionText options)) ++ footerText bindings) ∧
    (∀ options models models' banner, (∀ model, model ∈ models ↔ model ∈ models') →
      headerText options models banner = headerText options models' banner) ∧
    (∀ request : Request, (∃ files, (generate request).result = .ok files) ↔
      ∃ sections, request.HasSections sections) ∧
    (∀ (request request' : Request) (sections sections' : List String),
      request.catalog = request'.catalog → request.overrides = request'.overrides →
      request.options = request'.options →
      request.HasSections sections → request'.HasSections sections' →
      ∀ (place place' : Nat) (query : Query), request.queries[place]? = some query →
        request'.queries[place']? = some query →
        ∃ binding, (query.bind request.catalog (.ofOverrides request.overrides)).result =
            .ok binding ∧
          sections[place]? = some (sectionText request.options binding) ∧
          sections'[place']? = some (sectionText request.options binding)) ∧
    (∀ (request : Request) (queries queries' : List Query) (sections : List String),
      { request with queries := queries ++ queries' }.HasSections sections ↔
        ∃ first second, { request with queries := queries }.HasSections first ∧
          { request with queries := queries' }.HasSections second ∧ sections = first ++ second ∧
          String.join sections = String.join first ++ String.join second) := by
  refine ⟨querierText_eq_sections, ?_, fun _ => Request.accepted_iff_hasSections, ?_, ?_⟩
  · intro options models models' banner hmodels
    rw [headerText, headerText, Text.sortedDistinct_congr hmodels]
  · intro request request' sections sections' hcatalog hoverrides hoptions hsections hsections'
      place place' query hquery hquery'
    obtain ⟨binding, hbinding, hplace⟩ := hsections.getElem? hquery
    obtain ⟨binding', hbinding', hplace'⟩ := hsections'.getElem? hquery'
    rw [Request.types, ← hcatalog, ← hoverrides] at hbinding'
    obtain rfl : binding = binding' := Except.ok.inj (hbinding.symm.trans hbinding')
    rw [← hoptions] at hplace'
    exact ⟨binding, hbinding, hplace, hplace'⟩
  · intro request queries queries' sections
    rw [Request.hasSections_append]
    constructor
    · rintro ⟨first, second, hfirst, hsecond, rfl⟩
      exact ⟨first, second, hfirst, hsecond, rfl, String.join_append⟩
    · rintro ⟨first, second, hfirst, hsecond, hsplit, -⟩
      exact ⟨first, second, hfirst, hsecond, hsplit⟩

/-- The queries on songs in the other order, with a query before them that gives nothing back. -/
def songRequestReordered : Request where
  sqlcVersion := "v1.25.0"
  catalog := Query.songs
  queries := { name := "forget", command := .exec, text := "DELETE FROM song" } ::
    songRequest.queries.reverse

/-- The first of the queries on songs has one section, although it stands last in the other file. -/
theorem sections_independent_songRequest :
    ∃ sections sections' binding, songRequest.HasSections sections ∧
      songRequestReordered.HasSections sections' ∧
      (Query.songPlays.bind Query.songs (.ofOverrides [])).result = .ok binding ∧
      sections[0]? = some (sectionText {} binding) ∧
      sections'[2]? = some (sectionText {} binding) := by
  obtain ⟨-, -, haccepted, hsections, -⟩ := sections_independent
  have hbound : ∃ bindings, (bindAll songRequest.catalog songRequest.types
      songRequest.queries).result = .ok bindings := ⟨_, rfl⟩
  have hbound' : ∃ bindings, (bindAll songRequestReordered.catalog songRequestReordered.types
      songRequestReordered.queries).result = .ok bindings := ⟨_, rfl⟩
  obtain ⟨bindings, hbindings⟩ := hbound
  obtain ⟨bindings', hbindings'⟩ := hbound'
  obtain ⟨sections, hfile⟩ :=
    (haccepted songRequest).mp ⟨_, generate_ok.mpr ⟨bindings, hbindings, rfl⟩⟩
  obtain ⟨sections', hfile'⟩ :=
    (haccepted songRequestReordered).mp ⟨_, generate_ok.mpr ⟨bindings', hbindings', rfl⟩⟩
  obtain ⟨binding, hbinding, hplace, hplace'⟩ :=
    hsections songRequest songRequestReordered sections sections' rfl rfl rfl hfile hfile' 0 2
      Query.songPlays rfl rfl
  exact ⟨sections, sections', binding, hfile, hfile', hbinding, hplace, hplace'⟩

end TypedSql
