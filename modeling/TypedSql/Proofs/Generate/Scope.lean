import TypedSql.Proofs.Generate.DeclaredNames
import TypedSql.Proofs.Script.Code
import TypedSql.Proofs.Text.ByteOrder

/-!
What the generated functions use is declared. Declarations and uses come from different passes: the
signature has the types, the binding the values, the plan of lists the expansions, and the file the
imports and the helper. For every query they fit together, and the model types that the file of
query functions imports are among those that the file of models exports.
-/

namespace TypedSql

open Script (CodeStep Field Item Step Token TypeDeclaration declarations fileText functionCode
  functionItem modelItems querierItems sectionItems usedModels uses)

def Slice.Bound.property : Slice.Bound → String
  | .whole property => property
  | .first property => property

def Script.Token.bound? : Token → Option Slice.Bound
  | .bound value => some value
  | _ => none

def fieldNames (declaration : Option TypeDeclaration) : List String :=
  match declaration with
  | none => []
  | some declaration => declaration.fields.map Field.name

namespace Binding

/-- The types of the fields that embedded tables have in the public row. -/
def embedTypes (binding : Binding) : List String :=
  match binding.signature.row with
  | none => []
  | some row =>
    ((binding.query.columns.zip row.fields).filter fun (column, _) => column.embed?.isSome).map
      fun (_, field) => field.type

/-- What the function of a query uses is what its section declares. -/
structure Closed (options : Options) (binding : Binding) : Prop where
  -- The tokens of the function make up its text.
  text : (functionItem options binding).text =
    Step.render ((functionCode options binding).map CodeStep.step)
  -- Its arguments, its binds and its calls of the helper are the tokens for them.
  plain : Script.PlainCode (functionCode options binding)
  -- The function names the types that its section declares, and no others.
  types : ∀ name, .type name ∈ uses (functionCode options binding) ↔
    name ∈ (sectionItems options binding).flatMap Item.types
  -- The section declares a type for parameters, for public rows and for raw rows where the query
  -- has them.
  required : (sectionItems options binding).flatMap Item.types = binding.query.typeNames
  -- The function uses the constant of its section, and no other.
  constant : ∀ name, .constant name ∈ uses (functionCode options binding) ↔
    name = binding.constantName
  -- Every property of the arguments that a list is read from is a field of the params type.
  arguments : ∀ property, .argument property ∈ uses (functionCode options binding) →
    property ∈ fieldNames binding.signature.params
  -- The values bound are those of the fields, in their order.
  bounds : ((uses (functionCode options binding)).filterMap Token.bound?).map Slice.Bound.property =
    fieldNames binding.signature.params
  parameter : .argsParameter ∈ uses (functionCode options binding) ↔ binding.query.params ≠ []
  bindCall : .bindCall ∈ uses (functionCode options binding) ↔ binding.query.params ≠ []

end Binding

def CallsHelper (options : Options) (bindings : List Binding) : Prop :=
  ∃ binding ∈ bindings, .helperCall ∈ uses (functionCode options binding)

instance (options : Options) (bindings : List Binding) : Decidable (CallsHelper options bindings) :=
  inferInstanceAs (Decidable (∃ binding ∈ bindings, _))

/-- What the file of query functions uses is what it declares or imports. -/
structure Request.Closed (request : Request) (bindings : List Binding) : Prop where
  -- Model types are imported in strictly increasing order of their bytes.
  increasing :
    ((querierItems request.options bindings).flatMap (Item.importsFrom "./models")).Pairwise
      fun a b => Utf8.encode a < Utf8.encode b
  -- They are the types of the fields that embedded tables have in the rows of queries.
  imported : ∀ name,
    name ∈ (querierItems request.options bindings).flatMap (Item.importsFrom "./models") ↔
      ∃ binding ∈ bindings, binding.query.command ≠ .exec ∧ name ∈ binding.embedTypes
  exported : ∀ name ∈ (querierItems request.options bindings).flatMap (Item.importsFrom "./models"),
    name ∈ (modelItems request.catalog request.types).flatMap Item.exportedTypes
  functions : ∀ binding ∈ bindings, binding.Closed request.options
  -- The file defines the functions of the queries and, if one of these calls it, the helper.
  defined : (querierItems request.options bindings).flatMap Item.functions =
    request.queries.map Query.functionName ++
      if CallsHelper request.options bindings then ["expandedParam"] else []
  -- Where no query takes the helper's name, the helper is the only function of that name.
  helper : (∀ query ∈ request.queries, query.functionName ≠ "expandedParam") →
    ((querierItems request.options bindings).flatMap Item.functions).count "expandedParam" =
      if CallsHelper request.options bindings then 1 else 0

section Functions

variable {options : Options} {catalog : Catalog} {types : TypeTable} {query : Query}
  {binding : Binding}

theorem text_functionItem (h : (query.bind catalog types).result = .ok binding) :
    (functionItem options binding).text =
      Step.render ((functionCode options binding).map CodeStep.step) := by
  obtain ⟨text, signature, -, hsignature, rfl⟩ := Query.bind_ok.mp h
  rw [Script.map_step_functionCode options (query.binding text signature)
    (Query.returns_signature hsignature) (Query.call_signature hsignature)]
  exact (Script.render_functionLines options _).symm

theorem fieldNames_paramsType? :
    fieldNames (query.paramsType? catalog types) =
      query.params.map fun param => param.column.property := by
  unfold Query.paramsType?
  split
  · next hparams =>
      rw [hparams]
      rfl
  · exact List.map_map

theorem map_property_bounds :
    query.bounds.map Slice.Bound.property =
      query.params.map fun param => param.column.property := by
  rw [Query.bounds, List.map_map]
  refine List.map_congr_left fun param _ => ?_
  change Slice.Bound.property (Slice.bound param) = _
  unfold Slice.bound
  split
  · rfl
  · rfl

/-- The plan for lists begins with the values of all parameters and expands some of them. -/
theorem slicePlan?_eq_some {plan : Slice.Plan} (h : query.slicePlan? = some plan) :
    plan.seed = query.bounds ∧ plan.expansions ≠ [] ∧
      ∀ expansion ∈ plan.expansions, ∃ param ∈ query.params,
        expansion.property = param.column.property := by
  unfold Query.slicePlan? at h
  split at h
  · next hslice =>
      obtain rfl := Option.some.inj h
      refine ⟨rfl, ?_, ?_⟩
      · obtain ⟨param, hparam, hlist⟩ := List.any_eq_true.mp hslice
        exact List.ne_nil_of_mem
          (List.mem_map.mpr ⟨param, List.mem_filter.mpr ⟨hparam, hlist⟩, rfl⟩)
      · intro expansion hexpansion
        obtain ⟨param, hparam, rfl⟩ := List.mem_map.mp hexpansion
        exact ⟨param, (List.mem_filter.mp hparam).1, rfl⟩
  · cases h

theorem rowName_eq (h : (query.bind catalog types).result = .ok binding) :
    Script.Binding.rowName binding =
      if query.HasRaw then query.rawRowTypeName else query.rowTypeName := by
  obtain ⟨text, signature, -, hsignature, rfl⟩ := Query.bind_ok.mp h
  change (signature.rawRow.map TypeDeclaration.name).getD query.rowTypeName = _
  rw [Query.map_name_rawRow hsignature]
  split
  · rfl
  · rfl

theorem type_mem_rowUses {name : String} : .type name ∈ Script.rowUses binding ↔
    binding.query.command ≠ .exec ∧ name = Script.Binding.rowName binding := by
  unfold Script.rowUses
  cases binding.query.command with
  | exec => simp
  | one => cases binding.signature.rawRow.isSome <;> simp
  | many => cases binding.signature.rawRow.isSome <;> simp

theorem type_mem_parameterUses {params : Option TypeDeclaration} {name : String} :
    .type name ∈ Script.parameterUses params ↔ name ∈ params.toList.map TypeDeclaration.name := by
  cases params with
  | none => simp [Script.parameterUses]
  | some params => simp [Script.parameterUses]

theorem type_mem_uses (h : (query.bind catalog types).result = .ok binding) {name : String} :
    .type name ∈ uses (functionCode options binding) ↔ name ∈ query.typeNames := by
  have hslices : .type name ∉ Script.sliceUses binding := by
    unfold Script.sliceUses
    cases binding.slices with
    | none => simp
    | some plan => simp
  have hstatement : .type name ∉ Script.statementUses binding := by
    unfold Script.statementUses
    split <;> split <;> simp
  have hreturns : .type name ∈ Script.returnUses query ↔
      query.command ≠ .exec ∧ name = query.rowTypeName := by
    unfold Script.returnUses
    split
    · next hexec => simp [hexec]
    · next hrows => simp [hrows]
  have hparams : name ∈ binding.signature.params.toList.map TypeDeclaration.name ↔
      query.params ≠ [] ∧ name = query.paramsTypeName := by
    rw [Query.params_signature (Query.bind_eq_ok h).2, Query.map_name_paramsType?]
    split
    · next hnone => simp [hnone]
    · next hsome => simp [hsome]
  rw [Script.uses_functionCode, Query.mem_typeNames]
  simp only [List.mem_append, hslices, hstatement, type_mem_rowUses, type_mem_parameterUses,
    hparams, rowName_eq h, query_of_bind h, hreturns]
  by_cases hraw : query.HasRaw
  · have hrows := hraw.1
    simp [hraw, hrows, or_assoc]
  · simp [hraw]

/-- Apart from types, a function uses its arguments, the expansions of lists, and what it binds. -/
theorem mem_uses_of_ne_type {token : Token} (htoken : ∀ name, token ≠ .type name) :
    token ∈ uses (functionCode options binding) ↔
      (token = .argsParameter ∧ binding.signature.params ≠ none) ∨
        token ∈ Script.sliceUses binding ∨ token ∈ Script.statementUses binding := by
  have hparameter : token ∈ Script.parameterUses binding.signature.params ↔
      token = .argsParameter ∧ binding.signature.params ≠ none := by
    unfold Script.parameterUses
    split
    · next hsome => simp [htoken, hsome]
    · next hnone => simp [hnone]
  have hreturns : token ∉ Script.returnUses binding.query := by
    unfold Script.returnUses
    split <;> simp [htoken]
  have hrows : token ∉ Script.rowUses binding := by
    unfold Script.rowUses
    split <;> simp [htoken]
  rw [Script.uses_functionCode]
  simp only [List.mem_append, hparameter, hreturns, hrows, or_false, or_assoc]

theorem mem_sliceUses {token : Token} : token ∈ Script.sliceUses binding ↔
    ∃ plan, binding.slices = some plan ∧
      (token = .constant binding.constantName ∨ (∃ value ∈ plan.seed, token = .bound value) ∨
        ∃ expansion ∈ plan.expansions,
          token = .helperCall ∨ token = .argument expansion.property) := by
  unfold Script.sliceUses
  cases binding.slices with
  | none => simp
  | some plan => simp [eq_comm]

theorem mem_statementUses {token : Token} : token ∈ Script.statementUses binding ↔
    (binding.slices = none ∧ token = .constant binding.constantName) ∨
      (binding.bounds ≠ [] ∧ (token = .bindCall ∨
        (binding.slices = none ∧ ∃ value ∈ binding.bounds, token = .bound value))) := by
  unfold Script.statementUses
  by_cases hbounds : binding.bounds = []
  · cases binding.slices with
    | none => simp [hbounds]
    | some plan => simp [hbounds]
  · cases binding.slices with
    | none => simp [hbounds, eq_comm]
    | some plan => simp [hbounds]

theorem constant_mem_uses {name : String} :
    .constant name ∈ uses (functionCode options binding) ↔ name = binding.constantName := by
  rw [mem_uses_of_ne_type (by simp), mem_sliceUses, mem_statementUses]
  cases binding.slices with
  | none => simp
  | some plan => simp

theorem argument_mem_uses (h : (query.bind catalog types).result = .ok binding) {property : String}
    (hmem : .argument property ∈ uses (functionCode options binding)) :
    ∃ param ∈ query.params, property = param.column.property := by
  obtain ⟨text, signature, -, -, rfl⟩ := Query.bind_ok.mp h
  rw [mem_uses_of_ne_type (by simp), mem_sliceUses, mem_statementUses] at hmem
  obtain ⟨plan, hplan, expansion, hexpansion, rfl⟩ : ∃ plan, query.slicePlan? = some plan ∧
      ∃ expansion ∈ plan.expansions, property = expansion.property := by
    simpa [Query.binding] using hmem
  exact (slicePlan?_eq_some hplan).2.2 expansion hexpansion

theorem helperCall_mem_uses (h : (query.bind catalog types).result = .ok binding) :
    .helperCall ∈ uses (functionCode options binding) ↔ binding.slices.isSome = true := by
  obtain ⟨text, signature, -, -, rfl⟩ := Query.bind_ok.mp h
  rw [mem_uses_of_ne_type (by simp), mem_sliceUses, mem_statementUses]
  change _ ↔ query.slicePlan?.isSome = true
  constructor
  · intro hmem
    obtain ⟨plan, hplan, -⟩ : ∃ plan, query.slicePlan? = some plan ∧
        ∃ expansion, expansion ∈ plan.expansions := by
      simpa [Query.binding] using hmem
    rw [hplan]
    rfl
  · intro hsome
    obtain ⟨plan, hplan⟩ := Option.isSome_iff_exists.mp hsome
    obtain ⟨expansion, hexpansion⟩ := List.exists_mem_of_ne_nil _ (slicePlan?_eq_some hplan).2.1
    exact Or.inr (Or.inl ⟨plan, hplan, Or.inr (Or.inr ⟨expansion, hexpansion, Or.inl rfl⟩)⟩)

theorem argsParameter_mem_uses (h : (query.bind catalog types).result = .ok binding) :
    .argsParameter ∈ uses (functionCode options binding) ↔ query.params ≠ [] := by
  have hparams : binding.signature.params ≠ none ↔ query.params ≠ [] := by
    rw [Query.params_signature (Query.bind_eq_ok h).2, Query.paramsType?]
    split
    · next hnone => simp [hnone]
    · next hsome => simp [hsome]
  rw [mem_uses_of_ne_type (by simp), mem_sliceUses, mem_statementUses, ← hparams]
  simp

theorem bindCall_mem_uses (h : (query.bind catalog types).result = .ok binding) :
    .bindCall ∈ uses (functionCode options binding) ↔ query.params ≠ [] := by
  obtain ⟨text, signature, -, -, rfl⟩ := Query.bind_ok.mp h
  rw [mem_uses_of_ne_type (by simp), mem_sliceUses, mem_statementUses]
  simp [Query.binding, Query.bounds]

theorem filterMap_bound?_bound (values : List Slice.Bound) :
    values.filterMap (fun value => (Token.bound value).bound?) = values :=
  List.filterMap_some

theorem filterMap_bound?_values
    (hseed : ∀ plan, binding.slices = some plan → plan.seed = binding.bounds) :
    (Script.sliceUses binding ++ Script.statementUses binding).filterMap Token.bound? =
      binding.bounds := by
  have hnone : Token.bound? (.constant binding.constantName) = none ∧
      Token.bound? .bindCall = none := ⟨rfl, rfl⟩
  unfold Script.sliceUses Script.statementUses
  cases hplan : binding.slices with
  | none =>
      by_cases hbounds : binding.bounds = []
      · simp [hbounds, hnone]
      · simp [hbounds, hnone, filterMap_bound?_bound]
  | some plan =>
      have hexpansions : (plan.expansions.flatMap fun expansion =>
          [.helperCall, .argument expansion.property, .argument expansion.property]).filterMap
            Token.bound? = [] := by
        rw [List.filterMap_flatMap]
        exact List.flatMap_eq_nil_iff.mpr fun expansion _ => rfl
      have hstatement : (if binding.bounds = [] then [] else [Token.bindCall]).filterMap
          Token.bound? = [] := by
        split
        · rfl
        · rfl
      simp [hexpansions, hstatement, hseed plan hplan, hnone, filterMap_bound?_bound]

/-- With lists or without, a function binds the values of all parameters, in order. -/
theorem filterMap_bound?_uses (h : (query.bind catalog types).result = .ok binding) :
    (uses (functionCode options binding)).filterMap Token.bound? = query.bounds := by
  have hparameter :
      (Script.parameterUses binding.signature.params).filterMap Token.bound? = [] := by
    cases binding.signature.params with
    | none => rfl
    | some params => rfl
  have hreturns : (Script.returnUses binding.query).filterMap Token.bound? = [] := by
    unfold Script.returnUses
    split
    · rfl
    · rfl
  have hrows : (Script.rowUses binding).filterMap Token.bound? = [] := by
    unfold Script.rowUses
    split
    · rfl
    · exact List.filterMap_replicate
    · exact List.filterMap_replicate
  have hvalues : (Script.sliceUses binding ++ Script.statementUses binding).filterMap Token.bound? =
      query.bounds := by
    obtain ⟨text, signature, -, -, rfl⟩ := Query.bind_ok.mp h
    exact filterMap_bound?_values fun plan hplan => (slicePlan?_eq_some hplan).1
  rw [List.filterMap_append] at hvalues
  simp only [Script.uses_functionCode, List.filterMap_append, hparameter, hreturns, hrows,
    List.append_nil, List.nil_append, hvalues]

end Functions

section Imports

variable {options : Options} {catalog : Catalog} {types : TypeTable} {queries : List Query}
  {bindings : List Binding}

/-- What is neither of a constant, nor of a type, nor of an exported function is of no section. -/
theorem flatMap_sections_eq_nil {α : Type} {f : Item → List α}
    (hconstant : ∀ name value, f (.constant name value) = [])
    (htype : ∀ exported name definition, f (.type exported name definition) = [])
    (hfunction : ∀ name definition, f (.function true name definition) = []) :
    (bindings.flatMap fun binding => (sectionItems options binding).flatMap f) = [] := by
  refine List.flatMap_eq_nil_iff.mpr fun binding _ => ?_
  have htypes :
      (declarations binding.signature).flatMap (fun declaration => f declaration.item) = [] :=
    List.flatMap_eq_nil_iff.mpr fun declaration _ => htype _ _ _
  rw [Script.flatMap_sectionItems, htypes, Script.constantItem, hconstant, Script.functionItem,
    hfunction]
  rfl

theorem importsFrom_querierItems :
    (querierItems options bindings).flatMap (Item.importsFrom "./models") =
      usedModels bindings := by
  rw [Script.flatMap_querierItems rfl,
    flatMap_sections_eq_nil (fun _ _ => rfl) (fun _ _ _ => rfl) (fun _ _ => rfl)]
  simp [Item.importsFrom, Script.queryItem, Script.helperItem]

theorem callsHelper_iff (hbindings : (bindAll catalog types queries).result = .ok bindings) :
    CallsHelper options bindings ↔ (bindings.any fun binding => binding.slices.isSome) = true := by
  rw [CallsHelper, List.any_eq_true]
  refine exists_congr fun binding => and_congr_right fun hbinding => ?_
  obtain ⟨query, -, hbind⟩ := exists_query_of_mem hbindings hbinding
  exact helperCall_mem_uses hbind

theorem functions_sectionItems (binding : Binding) :
    (sectionItems options binding).flatMap Item.functions = [binding.query.functionName] := by
  have htypes : (declarations binding.signature).flatMap
      (fun declaration => declaration.item.functions) = [] :=
    List.flatMap_eq_nil_iff.mpr fun declaration _ => rfl
  rw [Script.flatMap_sectionItems, htypes]
  rfl

theorem functions_querierItems (hbindings : (bindAll catalog types queries).result = .ok bindings) :
    (querierItems options bindings).flatMap Item.functions =
      queries.map Query.functionName ++
        if CallsHelper options bindings then ["expandedParam"] else [] := by
  have hsections : bindings.flatMap
      (fun binding => (sectionItems options binding).flatMap Item.functions) =
        queries.flatMap fun query => [query.functionName] := by
    refine flatMap_bindings hbindings ?_
    intro query binding hbinding
    rw [functions_sectionItems, query_of_bind hbinding]
  rw [Script.flatMap_querierItems rfl, hsections, List.map_eq_flatMap]
  simp [Item.functions, Script.queryItem, Script.helperItem, callsHelper_iff hbindings]

/-- The helper's name is defined by the helper and by every query that takes it. -/
theorem count_functions_querierItems
    (hbindings : (bindAll catalog types queries).result = .ok bindings) :
    ((querierItems options bindings).flatMap Item.functions).count "expandedParam" =
      (queries.map Query.functionName).count "expandedParam" +
        if CallsHelper options bindings then 1 else 0 := by
  rw [functions_querierItems hbindings, List.count_append]
  split
  · rfl
  · rfl

/-- The file of models exports all of its types. -/
theorem exportedTypes_modelItems : (modelItems catalog types).flatMap Item.exportedTypes =
    (modelItems catalog types).flatMap Item.types := by
  rw [modelItems, Script.models, List.map_map, List.flatMap_map, List.flatMap_map]
  rfl

theorem map_type_rowFields (columns : List Column) :
    ((columns.zip (columns.map (Query.rowField types))).filter fun (column, _) =>
      column.embed?.isSome).map (fun (_, field) => field.type) =
        (columns.filterMap Column.embed?).map Identifier.modelName := by
  induction columns with
  | nil => rfl
  | cons column columns ih =>
      cases hembed : column.embed? with
      | none => simp [hembed, ih]
      | some embed => simp [hembed, ih, Query.rowField]

theorem mem_embedTypes {query : Query} {binding : Binding}
    (h : (query.bind catalog types).result = .ok binding) {name : String} :
    binding.query.command ≠ .exec ∧ name ∈ binding.embedTypes ↔ name ∈ query.modelNames := by
  have hrow := Query.row_signature (Query.bind_eq_ok h).2
  rw [query_of_bind h, Query.modelNames]
  by_cases hexec : query.command = .exec
  · simp [hexec]
  · have htypes : binding.embedTypes = query.embeds.map Identifier.modelName := by
      rw [Binding.embedTypes, hrow, if_neg hexec, query_of_bind h]
      exact map_type_rowFields query.columns
    rw [htypes, if_neg hexec]
    exact and_iff_right hexec

/-- The embedded tables of a query that can be bound are tables of the catalog. -/
theorem mem_exportedTypes {query : Query} {binding : Binding}
    (h : (query.bind catalog types).result = .ok binding) {name : String}
    (hname : name ∈ query.modelNames) :
    name ∈ (modelItems catalog types).flatMap Item.exportedTypes := by
  rw [Query.modelNames] at hname
  split at hname
  · cases hname
  · obtain ⟨embed, hembed, rfl⟩ := List.mem_map.mp hname
    have haliases := Query.result_aliasAll.mp (Query.result_aliasEmbeds.mp (Query.bind_eq_ok h).1)
    obtain ⟨table, htable⟩ := haliases.1 embed (Query.mem_distinctEmbeds.mpr hembed)
    obtain ⟨hmem, rfl⟩ := Catalog.table?_eq_some htable
    rw [exportedTypes_modelItems, types_modelItems]
    exact List.mem_map_of_mem hmem

end Imports

theorem Binding.closed {options : Options} {catalog : Catalog} {types : TypeTable} {query : Query}
    {binding : Binding} (h : (query.bind catalog types).result = .ok binding) :
    binding.Closed options := by
  have hquery := query_of_bind h
  have hfields : fieldNames binding.signature.params =
      query.params.map fun param => param.column.property := by
    rw [Query.params_signature (Query.bind_eq_ok h).2, fieldNames_paramsType?]
  refine ⟨text_functionItem h, Script.plainCode_functionCode options binding, ?_, ?_,
    fun name => constant_mem_uses, ?_, ?_, ?_, ?_⟩
  · intro name
    rw [types_sectionItems h]
    exact type_mem_uses h
  · rw [types_sectionItems h, hquery]
  · intro property hmem
    obtain ⟨param, hparam, rfl⟩ := argument_mem_uses h hmem
    rw [hfields]
    exact List.mem_map_of_mem hparam
  · rw [filterMap_bound?_uses h, map_property_bounds, hfields]
  · rw [argsParameter_mem_uses h, hquery]
  · rw [bindCall_mem_uses h, hquery]

theorem files_eq_items (request : Request) (bindings : List Binding) :
    request.files bindings =
      [⟨"models.ts", fileText request.banner (modelItems request.catalog request.types)⟩,
        ⟨"querier.ts", fileText request.banner (querierItems request.options bindings)⟩] := by
  rw [Request.files, Script.modelsText_eq, Script.querierText_eq]
  rfl

/-- What the generated functions use is declared where they can use it. The model types that the
file of query functions imports are those that the rows of queries need, and the file of models
exports them. A function names exactly the types that the section of its query declares, takes from
its arguments only what their type has, and binds the values of all parameters in order. The helper
is defined if some function calls it; nothing keeps a query from taking its name. -/
theorem generate_closed (request : Request) (files : List GeneratedFile)
    (hfiles : (generate request).result = .ok files) :
    ∃ bindings, (bindAll request.catalog request.types request.queries).result = .ok bindings ∧
      files =
        [⟨"models.ts", fileText request.banner (modelItems request.catalog request.types)⟩,
          ⟨"querier.ts", fileText request.banner (querierItems request.options bindings)⟩] ∧
      request.Closed bindings := by
  obtain ⟨bindings, hbindings, rfl⟩ := generate_ok.mp hfiles
  refine ⟨bindings, hbindings, files_eq_items request bindings, ?_, ?_, ?_, ?_,
    functions_querierItems hbindings, ?_⟩
  · rw [importsFrom_querierItems]
    exact (Text.pairwise_sortedDistinct _).imp Utf8.encode_lt_encode
  · intro name
    rw [importsFrom_querierItems, mem_usedModels hbindings]
    constructor
    · rintro ⟨query, hquery, hname⟩
      obtain ⟨binding, hbinding, hbind⟩ := exists_binding_of_mem hbindings hquery
      exact ⟨binding, hbinding, (mem_embedTypes hbind).mpr hname⟩
    · rintro ⟨binding, hbinding, hname⟩
      obtain ⟨query, hquery, hbind⟩ := exists_query_of_mem hbindings hbinding
      exact ⟨query, hquery, (mem_embedTypes hbind).mp hname⟩
  · intro name hname
    rw [importsFrom_querierItems, mem_usedModels hbindings] at hname
    obtain ⟨query, hquery, hname⟩ := hname
    obtain ⟨binding, -, hbind⟩ := exists_binding_of_mem hbindings hquery
    exact mem_exportedTypes hbind hname
  · intro binding hbinding
    obtain ⟨query, -, hbind⟩ := exists_query_of_mem hbindings hbinding
    exact Binding.closed hbind
  · intro hnames
    -- No query takes the name, so only the helper itself counts.
    have hqueries : (request.queries.map Query.functionName).count "expandedParam" = 0 :=
      List.count_eq_zero.mpr fun hmem => by
        obtain ⟨query, hquery, hname⟩ := List.mem_map.mp hmem
        exact hnames query hquery hname
    rw [count_functions_querierItems hbindings, hqueries, Nat.zero_add]

theorem generate_closed_songRequest :
    ∃ files bindings, (generate songRequest).result = .ok files ∧
      (bindAll songRequest.catalog songRequest.types songRequest.queries).result = .ok bindings ∧
      songRequest.Closed bindings ∧
      ((querierItems songRequest.options bindings).flatMap Item.functions).count "expandedParam" =
        1 := by
  have hbound : ∃ bindings, (bindAll songRequest.catalog songRequest.types
      songRequest.queries).result = .ok bindings := ⟨_, rfl⟩
  obtain ⟨bound, hbound⟩ := hbound
  have hfiles := generate_ok.mpr ⟨bound, hbound, rfl⟩
  obtain ⟨bindings, hbindings, -, hclosed⟩ := generate_closed songRequest _ hfiles
  have hcalls : CallsHelper songRequest.options bindings := by
    have hslices : songRequest.queries.any Query.hasSlice = true := by decide
    rwa [callsHelper_iff hbindings, any_slices hbindings]
  refine ⟨_, bindings, hfiles, hbindings, hclosed, ?_⟩
  rw [hclosed.helper (by decide +kernel), if_pos hcalls]

/-- A query with the helper's name. -/
def expandedParamQuery : Query where
  name := "expanded_param"
  command := .exec
  text := "DELETE FROM song"

def uncalledRequest : Request where
  queries := [expandedParamQuery]

def calledRequest : Request where
  queries := [expandedParamQuery,
    { name := "drop_songs"
      command := .exec
      text := "DELETE FROM song WHERE id IN (/*SLICE:ids*/?)"
      params := [⟨1, { name := "ids", sqlType := "INTEGER", notNull := true, isSlice := true }⟩] }]

/-- A function has the helper's name where no function calls it, and two where one does. -/
theorem count_functions_expandedParamQuery :
    (∃ bindings, (generate uncalledRequest).result = .ok
        [⟨"models.ts", fileText uncalledRequest.banner
          (modelItems uncalledRequest.catalog uncalledRequest.types)⟩,
        ⟨"querier.ts", fileText uncalledRequest.banner
          (querierItems uncalledRequest.options bindings)⟩] ∧
      ¬ CallsHelper uncalledRequest.options bindings ∧
      ((querierItems uncalledRequest.options bindings).flatMap Item.functions).count
        "expandedParam" = 1) ∧
    ∃ bindings, (generate calledRequest).result = .ok
        [⟨"models.ts", fileText calledRequest.banner
          (modelItems calledRequest.catalog calledRequest.types)⟩,
        ⟨"querier.ts", fileText calledRequest.banner
          (querierItems calledRequest.options bindings)⟩] ∧
      CallsHelper calledRequest.options bindings ∧
      ((querierItems calledRequest.options bindings).flatMap Item.functions).count
        "expandedParam" = 2 := by
  constructor
  · obtain ⟨bindings, hbindings⟩ : ∃ bindings, (bindAll uncalledRequest.catalog
        uncalledRequest.types uncalledRequest.queries).result = .ok bindings := ⟨_, rfl⟩
    have hcalls : ¬ CallsHelper uncalledRequest.options bindings := by
      rw [callsHelper_iff hbindings, any_slices hbindings]
      decide
    have hqueries : (uncalledRequest.queries.map Query.functionName).count "expandedParam" = 1 := by
      decide +kernel
    refine ⟨bindings, ?_, hcalls, ?_⟩
    · exact generate_ok.mpr ⟨bindings, hbindings, (files_eq_items _ _).symm⟩
    · rw [count_functions_querierItems hbindings, hqueries, if_neg hcalls]
  · obtain ⟨bindings, hbindings⟩ : ∃ bindings, (bindAll calledRequest.catalog
        calledRequest.types calledRequest.queries).result = .ok bindings := ⟨_, rfl⟩
    have hcalls : CallsHelper calledRequest.options bindings := by
      rw [callsHelper_iff hbindings, any_slices hbindings]
      decide
    have hqueries : (calledRequest.queries.map Query.functionName).count "expandedParam" = 1 := by
      decide +kernel
    refine ⟨bindings, ?_, hcalls, ?_⟩
    · exact generate_ok.mpr ⟨bindings, hbindings, (files_eq_items _ _).symm⟩
    · rw [count_functions_querierItems hbindings, hqueries, if_pos hcalls]

end TypedSql
