import Mathlib.Data.List.Lattice
import Mathlib.Data.List.Nodup
import Mathlib.Data.String.Basic
import TypedSql.Proofs.Generate.Outcome
import TypedSql.Proofs.Query.Signature
import TypedSql.Proofs.Script.Items
import TypedSql.Proofs.Text.Camel

/-!
When the generated files declare no name twice. Names of several kinds meet at the top level of a
file: imports, helpers, and those made of the names of tables and queries with capitals, prefixes
and suffixes. Different tables and queries are not enough to keep them apart, because the camel form
drops underscores, tables of all schemas share one file, and a query or a table can have a name that
another kind of name is made up to. These are all the ways in which two names coincide.
-/

namespace TypedSql

open Script (Item classNames declarations fileText modelItems querierItems sectionItems usedModels)

section Collecting

variable {catalog : Catalog} {types : TypeTable} {queries : List Query} {bindings : List Binding}

/-- What is read off the bindings, in order, can be read off the queries. -/
theorem flatMap_bindings {α : Type} {f : Binding → List α} {g : Query → List α}
    (hbindings : (bindAll catalog types queries).result = .ok bindings)
    (h : ∀ query binding, (query.bind catalog types).result = .ok binding → f binding = g query) :
    bindings.flatMap f = queries.flatMap g := by
  induction bindAll_ok.mp hbindings with
  | nil => rfl
  | @cons query binding queries bindings hbinding hrest ih =>
      rw [List.flatMap_cons, List.flatMap_cons, h query binding hbinding, ih (bindAll_ok.mpr hrest)]

/-- Some query has a list parameter exactly if some binding has a plan for one. -/
theorem any_slices (hbindings : (bindAll catalog types queries).result = .ok bindings) :
    (bindings.any fun binding => binding.slices.isSome) = queries.any Query.hasSlice := by
  induction bindAll_ok.mp hbindings with
  | nil => rfl
  | @cons query binding queries bindings hbinding hrest ih =>
      obtain ⟨text, signature, -, -, rfl⟩ := Query.bind_ok.mp hbinding
      have hslices : query.slicePlan?.isSome = query.hasSlice := by
        unfold Query.slicePlan?
        cases query.hasSlice with
        | false => rfl
        | true => rfl
      rw [List.any_cons, List.any_cons, ih (bindAll_ok.mpr hrest)]
      exact congrArg (· || _) hslices

theorem usedModels_eq (hbindings : (bindAll catalog types queries).result = .ok bindings) :
    usedModels bindings =
      Text.sortedDistinct (queries.flatMap fun query => Text.sortedDistinct query.modelNames) := by
  rw [usedModels]
  congr 1
  refine flatMap_bindings hbindings ?_
  intro query binding hbinding
  exact Query.models_signature (Query.bind_eq_ok hbinding).2

theorem mem_usedModels (hbindings : (bindAll catalog types queries).result = .ok bindings)
    {name : String} : name ∈ usedModels bindings ↔ ∃ query ∈ queries, name ∈ query.modelNames := by
  rw [usedModels_eq hbindings, Text.mem_sortedDistinct, List.mem_flatMap]
  simp only [Text.mem_sortedDistinct]

end Collecting

def importedClasses (options : Options) : List String :=
  if options.workersTypesV3 then [] else classNames

section Names

variable {options : Options} {catalog : Catalog} {types : TypeTable} {queries : List Query}
  {bindings : List Binding}

theorem types_modelItems : (modelItems catalog types).flatMap Item.types =
    catalog.tables.map fun table => table.rel.modelName := by
  rw [modelItems, Script.models, List.map_map, List.flatMap_map]
  exact List.map_eq_flatMap.symm

theorem values_modelItems : (modelItems catalog types).flatMap Item.values = [] := by
  rw [modelItems, List.flatMap_map]
  exact List.flatMap_eq_nil_iff.mpr fun declaration _ => rfl

theorem query_of_bind {query : Query} {binding : Binding}
    (h : (query.bind catalog types).result = .ok binding) : binding.query = query := by
  obtain ⟨text, signature, -, -, rfl⟩ := Query.bind_ok.mp h
  rfl

theorem values_sectionItems (binding : Binding) :
    (sectionItems options binding).flatMap Item.values =
      [binding.query.constantName, binding.query.functionName] := by
  have htypes : (declarations binding.signature).flatMap
      (fun declaration => declaration.item.values) = [] :=
    List.flatMap_eq_nil_iff.mpr fun declaration _ => rfl
  rw [Script.flatMap_sectionItems, htypes]
  rfl

theorem types_sectionItems {query : Query} {binding : Binding}
    (h : (query.bind catalog types).result = .ok binding) :
    (sectionItems options binding).flatMap Item.types = query.typeNames := by
  have htypes :
      (declarations binding.signature).flatMap (fun declaration => declaration.item.types) =
      (declarations binding.signature).map Script.TypeDeclaration.name :=
    List.map_eq_flatMap.symm
  rw [Script.flatMap_sectionItems, htypes, Query.map_name_declarations (Query.bind_eq_ok h).2]
  exact List.append_nil _

theorem values_querierItems (hbindings : (bindAll catalog types queries).result = .ok bindings) :
    (querierItems options bindings).flatMap Item.values =
      importedClasses options ++
        queries.flatMap (fun query => [query.constantName, query.functionName]) ++
        (if queries.any Query.hasSlice then ["expandedParam"] else []) := by
  have hsections :
      bindings.flatMap (fun binding => (sectionItems options binding).flatMap Item.values) =
      queries.flatMap fun query => [query.constantName, query.functionName] := by
    refine flatMap_bindings hbindings ?_
    intro query binding hbinding
    rw [values_sectionItems, query_of_bind hbinding]
  rw [Script.flatMap_querierItems rfl, hsections, any_slices hbindings]
  simp [importedClasses, Item.values, Script.queryItem, Script.helperItem]

theorem types_querierItems (hbindings : (bindAll catalog types queries).result = .ok bindings) :
    (querierItems options bindings).flatMap Item.types =
      importedClasses options ++ usedModels bindings ++ ["Query"] ++
        queries.flatMap Query.typeNames := by
  have hsections :
      bindings.flatMap (fun binding => (sectionItems options binding).flatMap Item.types) =
      queries.flatMap Query.typeNames := by
    refine flatMap_bindings hbindings ?_
    intro query binding hbinding
    exact types_sectionItems hbinding
  rw [Script.flatMap_querierItems rfl, hsections]
  simp [importedClasses, Item.types, Script.queryItem, Script.helperItem]

end Names

section Endings

theorem getLast?_append {front back : String} {c : Char} (h : back.toList.getLast? = some c) :
    (front ++ back).toList.getLast? = some c := by
  rw [String.toList_append, List.getLast?_append, h]
  rfl

theorem ne_of_getLast? {a b : String} {c d : Char} (ha : a.toList.getLast? = some c)
    (hb : b.toList.getLast? = some d) (hne : c ≠ d) : a ≠ b := by
  rintro rfl
  exact hne (Option.some.inj (ha.symm.trans hb))

theorem getLast?_constantName (query : Query) : query.constantName.toList.getLast? = some 'y' :=
  getLast?_append rfl

theorem getLast?_paramsTypeName (query : Query) : query.paramsTypeName.toList.getLast? = some 's' :=
  getLast?_append rfl

theorem getLast?_rowTypeName (query : Query) : query.rowTypeName.toList.getLast? = some 'w' :=
  getLast?_append rfl

theorem getLast?_rawRowTypeName (query : Query) : query.rawRowTypeName.toList.getLast? = some 'w' :=
  getLast?_append rfl

end Endings

namespace Query

variable {query other : Query} {name : String}

theorem mem_typeNames : name ∈ query.typeNames ↔
    (query.params ≠ [] ∧ name = query.paramsTypeName) ∨
    (query.command ≠ .exec ∧ name = query.rowTypeName) ∨
    (query.HasRaw ∧ name = query.rawRowTypeName) := by
  unfold typeNames
  by_cases hparams : query.params = [] <;> by_cases hexec : query.command = .exec <;>
    by_cases hraw : query.HasRaw <;> simp [hparams, hexec, hraw]

theorem getLast?_of_mem_typeNames (h : name ∈ query.typeNames) :
    name.toList.getLast? = some 's' ∨ name.toList.getLast? = some 'w' := by
  rcases mem_typeNames.mp h with ⟨-, rfl⟩ | ⟨-, rfl⟩ | ⟨-, rfl⟩
  · exact Or.inl (getLast?_paramsTypeName query)
  · exact Or.inr (getLast?_rowTypeName query)
  · exact Or.inr (getLast?_rawRowTypeName query)

theorem paramsTypeName_ne_rowTypeName : query.paramsTypeName ≠ other.rowTypeName :=
  ne_of_getLast? (getLast?_paramsTypeName query) (getLast?_rowTypeName other) (by decide)

theorem paramsTypeName_ne_rawRowTypeName : query.paramsTypeName ≠ other.rawRowTypeName :=
  ne_of_getLast? (getLast?_paramsTypeName query) (getLast?_rawRowTypeName other) (by decide)

theorem rawRowTypeName_eq_rowTypeName_iff :
    query.rawRowTypeName = other.rowTypeName ↔ other.name = "Raw" ++ query.name := by
  rw [rawRowTypeName, rowTypeName, String.append_left_inj]
  exact eq_comm

theorem ne_raw_append : name ≠ "Raw" ++ name := by
  intro h
  have hlength := congrArg String.length h
  have hraw : "Raw".length = 3 := rfl
  rw [String.length_append, hraw] at hlength
  omega

theorem nodup_typeNames (query : Query) : query.typeNames.Nodup := by
  have hraw : query.rawRowTypeName ≠ query.rowTypeName :=
    fun h => ne_raw_append (rawRowTypeName_eq_rowTypeName_iff.mp h)
  unfold typeNames
  split <;> split <;> split <;>
    simp [paramsTypeName_ne_rowTypeName, paramsTypeName_ne_rawRowTypeName, hraw.symm]

/-- Two queries with different names share no type, unless one has the name that the raw row of the
other makes up. -/
theorem disjoint_typeNames (hne : query.name ≠ other.name) :
    List.Disjoint query.typeNames other.typeNames ↔
      (query.HasRaw → other.command ≠ .exec → other.name ≠ "Raw" ++ query.name) ∧
      (other.HasRaw → query.command ≠ .exec → query.name ≠ "Raw" ++ other.name) := by
  constructor
  · intro h
    refine ⟨?_, ?_⟩
    · intro hraw hrows hname
      exact h (mem_typeNames.mpr (Or.inr (Or.inr ⟨hraw, rfl⟩)))
        (mem_typeNames.mpr (Or.inr (Or.inl ⟨hrows, rawRowTypeName_eq_rowTypeName_iff.mpr hname⟩)))
    · intro hraw hrows hname
      exact h
        (mem_typeNames.mpr (Or.inr (Or.inl ⟨hrows, rawRowTypeName_eq_rowTypeName_iff.mpr hname⟩)))
        (mem_typeNames.mpr (Or.inr (Or.inr ⟨hraw, rfl⟩)))
  · rintro ⟨hfirst, hsecond⟩ name hname hname'
    rcases mem_typeNames.mp hname with ⟨-, rfl⟩ | ⟨hrows, rfl⟩ | ⟨hraw, rfl⟩
    · rcases mem_typeNames.mp hname' with ⟨-, h⟩ | ⟨-, h⟩ | ⟨-, h⟩
      · exact hne ((String.append_left_inj _).mp h)
      · exact paramsTypeName_ne_rowTypeName h
      · exact paramsTypeName_ne_rawRowTypeName h
    · rcases mem_typeNames.mp hname' with ⟨-, h⟩ | ⟨-, h⟩ | ⟨hraw, h⟩
      · exact paramsTypeName_ne_rowTypeName h.symm
      · exact hne ((String.append_left_inj _).mp h)
      · exact hsecond hraw hrows (rawRowTypeName_eq_rowTypeName_iff.mp h.symm)
    · rcases mem_typeNames.mp hname' with ⟨-, h⟩ | ⟨hrows, h⟩ | ⟨-, h⟩
      · exact paramsTypeName_ne_rawRowTypeName h.symm
      · exact hfirst hraw hrows (rawRowTypeName_eq_rowTypeName_iff.mp h)
      · have happend := (String.append_left_inj _).mp h
        exact hne ((String.append_right_inj _).mp happend)

theorem functionName_ne_className {name : String} (h : name ∈ classNames) :
    query.functionName ≠ name := by
  rintro rfl
  have hhead : ∀ name ∈ classNames, name.toList.head? = some 'D' := by decide
  have hupper := Text.head_camelCase (hhead _ h)
  cases hupper

theorem constantName_ne_className {name : String} (h : name ∈ classNames) :
    query.constantName ≠ name := by
  rintro rfl
  have hlast : ∀ name ∈ classNames, name.toList.getLast? ≠ some 'y' := by decide
  exact hlast _ h (getLast?_constantName query)

theorem functionName_ne_constantName : query.functionName ≠ query.constantName := by
  intro h
  have hlength := congrArg String.length h
  have hquery : "Query".length = 5 := rfl
  rw [constantName, String.length_append, hquery] at hlength
  change (Text.camelCase query.name).length = _ at hlength
  omega

end Query

/-- For pairwise different keys, a relation between all pairs is one between entries of different
keys. -/
theorem pairwise_iff_of_nodup {α κ : Type} {R : α → α → Prop} {key : α → κ} {entries : List α}
    (hsymm : ∀ a b, R a b → R b a) (hkeys : (entries.map key).Nodup) :
    entries.Pairwise R ↔ ∀ a ∈ entries, ∀ b ∈ entries, key a ≠ key b → R a b := by
  constructor
  · intro h a ha b hb hne
    have : Std.Symm R := ⟨hsymm⟩
    exact h.forall ha hb fun hab => hne (congrArg key hab)
  · intro h
    refine (List.pairwise_map.mp hkeys).imp_of_mem ?_
    intro a b ha hb hne
    exact h a ha b hb hne

/-- When all model types have different names, for tables that have different names in each
schema. -/
structure DistinctModels (catalog : Catalog) : Prop where
  -- Different tables of a schema have different Pascal forms.
  within : ∀ schema ∈ catalog.schemas, ∀ a ∈ schema.tables, ∀ b ∈ schema.tables,
    a.rel.modelName = b.rel.modelName → a.rel = b.rel
  -- No table has the Pascal form of a table of another schema.
  between : catalog.schemas.Pairwise fun s t =>
    ∀ a ∈ s.tables, ∀ b ∈ t.tables, a.rel.modelName ≠ b.rel.modelName

/-- When all constants and functions have different names, for queries that have different names. -/
structure DistinctValues (queries : List Query) : Prop where
  -- Different queries have different camel forms.
  camel : ∀ a ∈ queries, ∀ b ∈ queries, a.functionName = b.functionName → a.name = b.name
  -- No function is named like a constant.
  constant : ∀ a ∈ queries, ∀ b ∈ queries, a.functionName ≠ b.constantName
  -- No function is named like the helper for lists, if that is there.
  helper : ∀ a ∈ queries, ∀ b ∈ queries, a.hasSlice = true → b.functionName ≠ "expandedParam"

/-- When all types of the file of query functions have different names, for queries that have
different names. -/
structure DistinctTypes (options : Options) (queries : List Query) : Prop where
  -- No model type that is used is named like a class, if these are imported.
  classes : options.workersTypesV3 = false →
    ∀ query ∈ queries, ∀ name ∈ query.modelNames, name ∉ classNames
  -- No model type that is used is named like the type of a query in flight.
  query : ∀ query ∈ queries, "Query" ∉ query.modelNames
  -- No model type that is used is named like a type of a query's section.
  sections : ∀ query ∈ queries, ∀ name ∈ query.modelNames, ∀ other ∈ queries, name ∉ other.typeNames
  -- No query with rows is named like another one with raw rows, after `Raw`.
  raw : ∀ query ∈ queries, ∀ other ∈ queries, query.HasRaw → other.command ≠ .exec →
    other.name ≠ "Raw" ++ query.name

theorem nodup_modelNames_iff {catalog : Catalog}
    (htables : ∀ schema ∈ catalog.schemas, (schema.tables.map Table.rel).Nodup) :
    (catalog.tables.map fun table => table.rel.modelName).Nodup ↔ DistinctModels catalog := by
  have hnodup : (catalog.tables.map fun table => table.rel.modelName).Nodup ↔
      (∀ schema ∈ catalog.schemas, (schema.tables.map fun table => table.rel.modelName).Nodup) ∧
        catalog.schemas.Pairwise fun s t =>
          ∀ a ∈ s.tables, ∀ b ∈ t.tables, a.rel.modelName ≠ b.rel.modelName := by
    rw [Catalog.tables, List.map_flatMap, List.nodup_flatMap]
    refine and_congr_right fun _ => List.Pairwise.iff ?_
    intro s t
    constructor
    · intro h a ha b hb hname
      exact h (List.mem_map.mpr ⟨a, ha, rfl⟩) (List.mem_map.mpr ⟨b, hb, hname.symm⟩)
    · intro h name hname hname'
      obtain ⟨a, ha, rfl⟩ := List.mem_map.mp hname
      obtain ⟨b, hb, hname⟩ := List.mem_map.mp hname'
      exact h a ha b hb hname.symm
  rw [hnodup]
  constructor
  · rintro ⟨hwithin, hbetween⟩
    refine ⟨?_, hbetween⟩
    intro schema hschema a ha b hb hname
    rw [List.inj_on_of_nodup_map (hwithin schema hschema) ha hb hname]
  · rintro ⟨hwithin, hbetween⟩
    refine ⟨?_, hbetween⟩
    intro schema hschema
    refine List.pairwise_map.mpr ((List.pairwise_map.mp (htables schema hschema)).imp_of_mem ?_)
    intro a b ha hb hne hname
    exact hne (hwithin schema hschema a ha b hb hname)

section Queries

variable {options : Options} {queries : List Query} {models : List String}

theorem nodup_importedClasses (options : Options) : (importedClasses options).Nodup := by
  unfold importedClasses
  split
  · exact List.nodup_nil
  · decide

theorem mem_importedClasses {name : String} :
    name ∈ importedClasses options ↔ options.workersTypesV3 = false ∧ name ∈ classNames := by
  unfold importedClasses
  cases options.workersTypesV3 with
  | false => simp
  | true => simp

/-- The constants and functions alone. -/
theorem nodup_sectionValues_iff (hqueries : (queries.map Query.name).Nodup) :
    (queries.flatMap fun query => [query.constantName, query.functionName]).Nodup ↔
      (∀ a ∈ queries, ∀ b ∈ queries, a.functionName = b.functionName → a.name = b.name) ∧
        ∀ a ∈ queries, ∀ b ∈ queries, a.functionName ≠ b.constantName := by
  have hsection : ∀ query ∈ queries, [query.constantName, query.functionName].Nodup := by
    intro query _
    simp [Query.functionName_ne_constantName.symm]
  rw [List.nodup_flatMap, pairwise_iff_of_nodup (fun a b h => List.Disjoint.symm h) hqueries]
  constructor
  · rintro ⟨-, hdisjoint⟩
    refine ⟨?_, ?_⟩
    · intro a ha b hb hname
      by_contra hne
      exact hdisjoint a ha b hb hne (List.mem_cons_of_mem _ (List.mem_singleton_self _))
        (by simp [hname])
    · intro a ha b hb hname
      by_cases hne : a.name = b.name
      · obtain rfl := List.inj_on_of_nodup_map hqueries ha hb hne
        exact Query.functionName_ne_constantName hname
      · exact hdisjoint a ha b hb hne (List.mem_cons_of_mem _ (List.mem_singleton_self _))
          (by simp [hname])
  · rintro ⟨hcamel, hconstant⟩
    refine ⟨hsection, ?_⟩
    intro a ha b hb hne name hname hname'
    simp only [List.mem_cons, List.not_mem_nil, or_false] at hname hname'
    rcases hname with rfl | rfl
    · rcases hname' with h | h
      · exact hne (hcamel a ha b hb ((String.append_left_inj _).mp h))
      · exact hconstant b hb a ha h.symm
    · rcases hname' with h | h
      · exact hconstant a ha b hb h
      · exact hne (hcamel a ha b hb h)

theorem nodup_values_iff (hqueries : (queries.map Query.name).Nodup) :
    (importedClasses options ++
        queries.flatMap (fun query => [query.constantName, query.functionName]) ++
        (if queries.any Query.hasSlice then ["expandedParam"] else [])).Nodup ↔
      DistinctValues queries := by
  rw [List.nodup_append, List.nodup_append, nodup_sectionValues_iff hqueries]
  constructor
  · rintro ⟨⟨-, ⟨hcamel, hconstant⟩, -⟩, -, hhelper⟩
    refine ⟨hcamel, hconstant, ?_⟩
    intro a ha b hb hslice
    have hany : queries.any Query.hasSlice = true := List.any_eq_true.mpr ⟨a, ha, hslice⟩
    refine hhelper _ ?_ _ (by rw [if_pos hany]; exact List.mem_singleton_self _)
    exact List.mem_append_right _ (List.mem_flatMap.mpr ⟨b, hb, by simp⟩)
  · rintro ⟨hcamel, hconstant, hhelper⟩
    refine ⟨⟨nodup_importedClasses options, ⟨hcamel, hconstant⟩, ?_⟩, ?_, ?_⟩
    · intro name hname other hother
      have hclass := (mem_importedClasses.mp hname).2
      obtain ⟨query, -, hother⟩ := List.mem_flatMap.mp hother
      simp only [List.mem_cons, List.not_mem_nil, or_false] at hother
      rcases hother with rfl | rfl
      · exact (Query.constantName_ne_className hclass).symm
      · exact (Query.functionName_ne_className hclass).symm
    · split
      · exact List.nodup_singleton _
      · exact List.nodup_nil
    · intro name hname other hother
      split at hother
      · next hany =>
          obtain rfl := List.mem_singleton.mp hother
          rcases List.mem_append.mp hname with hname | hname
          · have hhelper : ∀ name ∈ classNames, name ≠ "expandedParam" := by decide
            exact hhelper name (mem_importedClasses.mp hname).2
          · obtain ⟨query, hquery, hname⟩ := List.mem_flatMap.mp hname
            obtain ⟨a, ha, hslice⟩ := List.any_eq_true.mp hany
            simp only [List.mem_cons, List.not_mem_nil, or_false] at hname
            rcases hname with rfl | rfl
            · exact ne_of_getLast? (getLast?_constantName query) (d := 'm') rfl (by decide)
            · exact hhelper a ha query hquery hslice
      · cases hother

/-- The types of all sections alone. -/
theorem nodup_sectionTypes_iff (hqueries : (queries.map Query.name).Nodup) :
    (queries.flatMap Query.typeNames).Nodup ↔
      ∀ query ∈ queries, ∀ other ∈ queries, query.HasRaw → other.command ≠ .exec →
        other.name ≠ "Raw" ++ query.name := by
  rw [List.nodup_flatMap, pairwise_iff_of_nodup (fun a b h => List.Disjoint.symm h) hqueries]
  constructor
  · rintro ⟨-, hdisjoint⟩ query hquery other hother hraw hrows hname
    have hne : query.name ≠ other.name := by
      rw [hname]
      exact Query.ne_raw_append
    exact ((Query.disjoint_typeNames hne).mp (hdisjoint query hquery other hother hne)).1 hraw hrows
      hname
  · intro h
    refine ⟨fun query _ => query.nodup_typeNames, ?_⟩
    intro query hquery other hother hne
    exact (Query.disjoint_typeNames hne).mpr
      ⟨h query hquery other hother, h other hother query hquery⟩

theorem nodup_types_iff (hqueries : (queries.map Query.name).Nodup) (hmodels : models.Nodup)
    (hmem : ∀ name, name ∈ models ↔ ∃ query ∈ queries, name ∈ query.modelNames) :
    (importedClasses options ++ models ++ ["Query"] ++ queries.flatMap Query.typeNames).Nodup ↔
      DistinctTypes options queries := by
  rw [List.nodup_append, List.nodup_append, List.nodup_append, nodup_sectionTypes_iff hqueries]
  constructor
  · rintro ⟨⟨⟨-, -, hclasses⟩, -, hquery⟩, hraw, hsections⟩
    refine ⟨?_, ?_, ?_, hraw⟩
    · intro hv3 query hquery name hname hclass
      exact hclasses name (mem_importedClasses.mpr ⟨hv3, hclass⟩) name
        ((hmem name).mpr ⟨query, hquery, hname⟩) rfl
    · intro query hmember hname
      exact hquery "Query" (List.mem_append_right _ ((hmem _).mpr ⟨query, hmember, hname⟩)) "Query"
        (List.mem_singleton_self _) rfl
    · intro query hquery name hname other hother htype
      have hmodel := (hmem name).mpr ⟨query, hquery, hname⟩
      exact hsections name (List.mem_append_left _ (List.mem_append_right _ hmodel)) name
        (List.mem_flatMap.mpr ⟨other, hother, htype⟩) rfl
  · rintro ⟨hclasses, hquery, hsections, hraw⟩
    refine ⟨⟨⟨nodup_importedClasses options, hmodels, ?_⟩, List.nodup_singleton _, ?_⟩, hraw, ?_⟩
    · rintro name hname _ hmodel rfl
      obtain ⟨hv3, hclass⟩ := mem_importedClasses.mp hname
      obtain ⟨query, hmember, hmodel⟩ := (hmem name).mp hmodel
      exact hclasses hv3 query hmember name hmodel hclass
    · rintro name hname _ hother rfl
      obtain rfl := List.mem_singleton.mp hother
      rcases List.mem_append.mp hname with hname | hmodel
      · have hclass : ("Query" : String) ∉ classNames := by decide
        exact hclass (mem_importedClasses.mp hname).2
      · obtain ⟨query, hmember, hmodel⟩ := (hmem _).mp hmodel
        exact hquery query hmember hmodel
    · rintro name hname _ hother rfl
      obtain ⟨other, hother, htype⟩ := List.mem_flatMap.mp hother
      -- Types of sections end in `Params` or `Row`, so classes and `Query` are none of them.
      have hlast := Query.getLast?_of_mem_typeNames htype
      rcases List.mem_append.mp hname with hname | hname
      · rcases List.mem_append.mp hname with hname | hmodel
        · have hclass : ∀ name ∈ classNames,
              ¬ (name.toList.getLast? = some 's' ∨ name.toList.getLast? = some 'w') := by decide
          exact hclass name (mem_importedClasses.mp hname).2 hlast
        · obtain ⟨query, hmember, hmodel⟩ := (hmem name).mp hmodel
          exact hsections query hmember name hmodel other hother htype
      · obtain rfl := List.mem_singleton.mp hname
        revert hlast
        decide

end Queries

/-- The model types, and the values and the types of the file of query functions, have different
names in exactly these cases. Different names of the queries, and of the tables of each schema, do
not suffice. -/
theorem nodup_declaredNames_iff (request : Request) (files : List GeneratedFile)
    (hfiles : (generate request).result = .ok files)
    (hqueries : (request.queries.map Query.name).Nodup)
    (htables : ∀ schema ∈ request.catalog.schemas, (schema.tables.map Table.rel).Nodup) :
    ∃ bindings, (bindAll request.catalog request.types request.queries).result = .ok bindings ∧
      files =
        [⟨"models.ts", fileText request.banner (modelItems request.catalog request.types)⟩,
          ⟨"querier.ts", fileText request.banner (querierItems request.options bindings)⟩] ∧
      ((modelItems request.catalog request.types).flatMap Item.values = []) ∧
      (((modelItems request.catalog request.types).flatMap Item.types).Nodup ↔
        DistinctModels request.catalog) ∧
      (((querierItems request.options bindings).flatMap Item.values).Nodup ↔
        DistinctValues request.queries) ∧
      (((querierItems request.options bindings).flatMap Item.types).Nodup ↔
        DistinctTypes request.options request.queries) := by
  obtain ⟨bindings, hbindings, rfl⟩ := generate_ok.mp hfiles
  refine ⟨bindings, hbindings, ?_, values_modelItems, ?_, ?_, ?_⟩
  · rw [Request.files, Script.modelsText_eq, Script.querierText_eq]
    rfl
  · rw [types_modelItems]
    exact nodup_modelNames_iff htables
  · rw [values_querierItems hbindings]
    exact nodup_values_iff hqueries
  · rw [types_querierItems hbindings]
    refine nodup_types_iff hqueries ?_ fun name => mem_usedModels hbindings
    exact (Text.pairwise_sortedDistinct _).imp fun h => ne_of_lt h

def songRequest : Request where
  catalog := Query.songs
  queries := [Query.songPlays,
    { name := "song_titles"
      command := .one
      text := "SELECT title FROM song WHERE id IN (/*SLICE:ids*/?)"
      params := [⟨1, { name := "ids", sqlType := "INTEGER", isSlice := true }⟩]
      columns := [{ name := "title", sqlType := "TEXT", notNull := true }] }]

theorem nodup_declaredNames_songRequest :
    ∃ files bindings, (generate songRequest).result = .ok files ∧
      (bindAll songRequest.catalog songRequest.types songRequest.queries).result = .ok bindings ∧
      ((modelItems songRequest.catalog songRequest.types).flatMap Item.types).Nodup ∧
      ((querierItems songRequest.options bindings).flatMap Item.values).Nodup ∧
      ((querierItems songRequest.options bindings).flatMap Item.types).Nodup := by
  have hbound : ∃ bindings, (bindAll songRequest.catalog songRequest.types
      songRequest.queries).result = .ok bindings := ⟨_, rfl⟩
  obtain ⟨bound, hbound⟩ := hbound
  have hfiles := generate_ok.mpr ⟨bound, hbound, rfl⟩
  obtain ⟨bindings, hbindings, -, -, hmodels, hvalues, htypes⟩ :=
    nodup_declaredNames_iff songRequest _ hfiles (by decide) (by decide)
  refine ⟨_, bindings, hfiles, hbindings, hmodels.mpr ?_, hvalues.mpr ?_, htypes.mpr ?_⟩
  · exact ⟨by decide +kernel, by decide +kernel⟩
  · exact ⟨by decide +kernel, by decide +kernel, by decide +kernel⟩
  · exact ⟨by decide +kernel, by decide +kernel, by decide +kernel, by decide +kernel⟩

/-- Tables of one name in two schemas, a table `query`, and queries whose names differ in an
underscore. -/
def clashingRequest : Request where
  catalog := { schemas := [
    { name := "main"
      tables := [⟨⟨"song"⟩, [{ name := "id", sqlType := "INTEGER", notNull := true }]⟩,
        ⟨⟨"query"⟩, [{ name := "text", sqlType := "TEXT", notNull := true }]⟩] },
    { name := "archive"
      tables := [⟨⟨"song"⟩, [{ name := "id", sqlType := "INTEGER", notNull := true }]⟩] }] }
  queries := [
    { name := "get_song", command := .exec, text := "DELETE FROM song" },
    { name := "GetSong"
      command := .many
      text := "SELECT query.text FROM query"
      columns := [{ name := "query", embedTable := some ⟨"query"⟩ }] }]

/-- Queries have different names, and tables have different names in each schema, but the model
types, and the values and types of the file of query functions, have some names twice. -/
theorem declaredNames_clashingRequest :
    (clashingRequest.queries.map Query.name).Nodup ∧
      (∀ schema ∈ clashingRequest.catalog.schemas, (schema.tables.map Table.rel).Nodup) ∧
      ∃ bindings,
        (bindAll clashingRequest.catalog clashingRequest.types clashingRequest.queries).result =
          .ok bindings ∧
        (generate clashingRequest).result = .ok (clashingRequest.files bindings) ∧
        ¬ ((modelItems clashingRequest.catalog clashingRequest.types).flatMap Item.types).Nodup ∧
        ¬ ((querierItems clashingRequest.options bindings).flatMap Item.values).Nodup ∧
        ¬ ((querierItems clashingRequest.options bindings).flatMap Item.types).Nodup := by
  have hbound : ∃ bindings, (bindAll clashingRequest.catalog clashingRequest.types
      clashingRequest.queries).result = .ok bindings := ⟨_, rfl⟩
  obtain ⟨bindings, hbindings⟩ := hbound
  have hmodels : (modelItems clashingRequest.catalog clashingRequest.types).flatMap Item.types =
      ["Song", "Query", "Song"] := by decide +kernel
  have hvalues : (querierItems clashingRequest.options bindings).flatMap Item.values =
      ["D1Database", "D1PreparedStatement", "D1Result", "getSongQuery", "getSong",
        "getSongQuery", "getSong"] := by
    rw [values_querierItems hbindings]
    decide +kernel
  have htypes : (querierItems clashingRequest.options bindings).flatMap Item.types =
      ["D1Database", "D1PreparedStatement", "D1Result", "Query", "Query", "GetSongRow",
        "RawGetSongRow"] := by
    rw [types_querierItems hbindings, usedModels_eq hbindings]
    decide +kernel
  refine ⟨by decide, by decide, bindings, hbindings, generate_ok.mpr ⟨bindings, hbindings, rfl⟩, ?_⟩
  rw [hmodels, hvalues, htypes]
  decide

end TypedSql
