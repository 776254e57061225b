import TypedSql.Proofs.Query.Signature
import TypedSql.Proofs.Script.Items
import TypedSql.Proofs.Text.Occurrence

/-!
The function of a query as lines of tokens. Tokens tell apart what is the same in every function,
names that the query gives, and uses of what is declared elsewhere: types, the constant, properties
of the arguments, and the helper for lists. The text of the function is the text of its tokens, so
the tokens tell what a function uses.
-/

namespace TypedSql.Script

inductive Token where
  -- What is the same in every function.
  | fixed (text : String)
  -- A name, a number or a string literal that the query gives.
  | own (text : String)
  | constant (name : String)
  | type (name : String)
  | argsParameter
  | argument (property : String)
  | bound (value : Slice.Bound)
  | bindCall
  | helperCall
deriving DecidableEq

namespace Token

def text : Token → String
  | fixed text => text
  | own text => text
  | constant name => name
  | type name => name
  | argsParameter => "args: "
  | argument property => "args." ++ property
  | bound value => value.expression
  | bindCall => ".bind("
  | helperCall => "expandedParam("

def isUse : Token → Bool
  | fixed _ => false
  | own _ => false
  | constant _ => true
  | type _ => true
  | argsParameter => true
  | argument _ => true
  | bound _ => true
  | bindCall => true
  | helperCall => true

end Token

inductive CodeStep where
  | line (tokens : List Token)
  | indent
  | dedent
  | emptyLine

namespace CodeStep

def step : CodeStep → Step
  | line tokens => .line (String.join (tokens.map Token.text))
  | indent => .indent
  | dedent => .dedent
  | emptyLine => Step.blank

def tokens : CodeStep → List Token
  | line tokens => tokens
  | _ => []

def block (first : List Token) (body : List CodeStep) (last : String) : List CodeStep :=
  .line first :: .indent :: (body ++ [.dedent, .line [.fixed last]])

end CodeStep

open CodeStep (block)

def parameterCode (params : Option TypeDeclaration) : List CodeStep :=
  match params with
  | some params => [.line [.fixed "d1: D1Database,"], .line [.argsParameter, .type params.name]]
  | none => [.line [.fixed "d1: D1Database"]]

def expansionCode (expansion : Slice.Expansion) : List CodeStep :=
  [.line [.fixed "query = query.replace(", .own (stringLiteral expansion.marker), .fixed ", ",
      .helperCall, .own (toString expansion.number.toNat), .fixed ", ",
      .argument expansion.property, .fixed ".length, params.length));"],
    .line [.fixed "params.push(...", .argument expansion.property, .fixed ".slice(1));"]]

def boundTokens (bounds : List Slice.Bound) : List Token :=
  (bounds.map .bound).intersperse (.fixed ", ")

def sliceCode (binding : Binding) : List CodeStep :=
  match binding.slices with
  | none => []
  | some plan =>
    [.line [.fixed "let query = ", .constant binding.constantName, .fixed ";"],
      .line ([.fixed "const params: any[] = ["] ++ boundTokens plan.seed ++ [.fixed "];"])] ++
    plan.expansions.flatMap expansionCode

def statementCode (binding : Binding) : List CodeStep :=
  let text : Token :=
    if binding.slices.isSome then .fixed "query" else .constant binding.constantName
  let values := if binding.slices.isSome then [.fixed "...params"] else boundTokens binding.bounds
  [.line [.fixed "const ps = d1"], .indent] ++
  (if binding.bounds = [] then [.line [.fixed ".prepare(", text, .fixed ");"]]
    else [.line [.fixed ".prepare(", text, .fixed ")"],
      .line ([.bindCall] ++ values ++ [.fixed ");"])]) ++
  [.dedent]

def mappingCode : Mapping → List CodeStep
  | .scalar property raw => [.line [.own property, .fixed ": raw.", .own raw, .fixed ","]]
  | .embed property fields =>
    .line [.fixed "// sqlc.embed(", .own property, .fixed ")"] ::
      block [.own property, .fixed ": \x7b"]
        (fields.map fun (name, raw) =>
          .line [.own name, .fixed ": raw.", .own raw, .fixed ","]) "\x7d,"

def returnTokens (command : Command) (row : String) : List Token :=
  match command with
  | .exec => [.fixed "D1Result"]
  | .one => [.type row, .fixed " | null"]
  | .many => [.fixed "D1Result<", .type row, .fixed ">"]

def callCode (command : Command) (row : String) : CodeStep :=
  match command with
  | .exec => .line [.fixed "ps.run()"]
  | .one => .line [.fixed "ps.first<", .type row, .fixed " | null>()"]
  | .many => .line [.fixed "ps.all<", .type row, .fixed ">()"]

def fromRawCode (options : Options) (command : Command) (row : String) (mapping : List Mapping) :
    List CodeStep :=
  let properties := mapping.flatMap mappingCode
  match command with
  | .exec => []
  | .one => block [.fixed ".then((raw: ", .type row, .fixed " | null", .fixed ") => raw ? \x7b"]
      properties "\x7d : null)"
  | .many => block [.fixed ".then((r: D1Result<", .type row, .fixed ">) => \x7b return \x7b"]
      (.line [.fixed "...r,"] ::
        (if options.workersTypesV3 then
          block [.fixed "results: r.results ? r.results.map((raw: ", .type row,
            .fixed ") => \x7b return \x7b"] properties "\x7d\x7d) : undefined,"
        else
          block [.fixed "results: r.results.map((raw: ", .type row, .fixed ") => \x7b return \x7b"]
            properties "\x7d\x7d),"))
      "\x7d\x7d)"

def Binding.rowName (binding : Binding) : String :=
  (binding.signature.rawRow.map TypeDeclaration.name).getD binding.query.rowTypeName

def thenCode (options : Options) (binding : Binding) : List CodeStep :=
  block
    ([.fixed "then(onFulfilled?: (value: "] ++
      returnTokens binding.query.command binding.query.rowTypeName ++
      [.fixed ") => void, onRejected?: (reason?: any) => void) \x7b"])
    ([callCode binding.query.command (Binding.rowName binding), .indent] ++
      (if binding.signature.rawRow.isSome then
        fromRawCode options binding.query.command (Binding.rowName binding)
          binding.signature.mapping
        else []) ++
      [.line [.fixed ".then(onFulfilled).catch(onRejected);"], .dedent])
    "\x7d,"

def functionCode (options : Options) (binding : Binding) : List CodeStep :=
  [.line [.fixed "export function ", .own binding.functionName, .fixed "("], .indent] ++
    (parameterCode binding.signature.params ++ [.dedent]) ++
  block ([.fixed "): Query<"] ++ returnTokens binding.query.command binding.query.rowTypeName ++
      [.fixed "> \x7b"])
    (sliceCode binding ++ statementCode binding ++
      block [.fixed "return \x7b"]
        (thenCode options binding ++ [.line [.fixed "batch() \x7b return ps; \x7d,"]])
        "\x7d")
    "\x7d" ++
  [.emptyLine]

section Texts

variable {catalog : Catalog} {types : TypeTable} {query : Query} {binding : Binding}

theorem join_boundTokens (bounds : List Slice.Bound) :
    String.join ((boundTokens bounds).map Token.text) = boundList bounds := by
  induction bounds with
  | nil => rfl
  | cons bound rest ih =>
      cases rest with
      | nil =>
          rw [boundList, List.map_singleton, String.intercalate_singleton]
          exact (String.join_cons).trans String.append_empty
      | cons next rest =>
          rw [boundList, List.map_cons, List.map_cons, String.intercalate_cons_cons]
          rw [boundList, List.map_cons] at ih
          rw [← ih, boundTokens, boundTokens, List.map_cons, List.map_cons,
            List.intersperse_cons_cons, List.map_cons, List.map_cons, String.join_cons,
            String.join_cons, String.append_assoc]
          rfl

theorem map_step_block (first : List Token) (body : List CodeStep) (last : String) :
    (block first body last).map CodeStep.step =
      Step.block (String.join (first.map Token.text)) (body.map CodeStep.step) last := by
  simp [block, CodeStep.step, Step.block, Step.opening, Step.closing, Token.text]

theorem map_step_parameterCode (params : Option TypeDeclaration) :
    (parameterCode params).map CodeStep.step = parameterLines params := by
  cases params with
  | none => rfl
  | some params => simp [parameterCode, parameterLines, CodeStep.step, Token.text]

theorem map_step_expansionCode (expansion : Slice.Expansion) :
    (expansionCode expansion).map CodeStep.step = expansionLines expansion := by
  simp [expansionCode, expansionLines, CodeStep.step, Token.text, ← String.toList_inj]

theorem map_step_sliceCode (binding : Binding) :
    (sliceCode binding).map CodeStep.step = sliceLines binding := by
  unfold sliceCode sliceLines
  cases binding.slices with
  | none => rfl
  | some plan =>
      simp [CodeStep.step, Token.text, join_boundTokens, List.map_flatMap, map_step_expansionCode,
        String.append_assoc]

theorem map_step_statementCode (binding : Binding) :
    (statementCode binding).map CodeStep.step = statementLines binding := by
  unfold statementCode statementLines
  cases binding.slices.isSome with
  | false =>
      by_cases hbounds : binding.bounds = []
      · simp [hbounds, CodeStep.step, Token.text, String.append_assoc]
      · simp [hbounds, CodeStep.step, Token.text, join_boundTokens, String.append_assoc]
  | true =>
      by_cases hbounds : binding.bounds = []
      · simp [hbounds, CodeStep.step, Token.text]
      · simp [hbounds, CodeStep.step, Token.text]

theorem map_step_mappingCode (mapping : Mapping) :
    (mappingCode mapping).map CodeStep.step = mappingLines mapping := by
  cases mapping with
  | scalar property raw =>
      simp [mappingCode, mappingLines, CodeStep.step, Token.text, String.append_assoc]
  | embed property fields =>
      simp [mappingCode, mappingLines, map_step_block, CodeStep.step, Token.text, Function.comp_def,
        String.append_assoc]

theorem join_returnTokens (command : Command) (row : String) :
    String.join ((returnTokens command row).map Token.text) = Query.returnType command row := by
  cases command with
  | exec => rfl
  | one => simp [returnTokens, Query.returnType, Token.text]
  | many => simp [returnTokens, Query.returnType, Token.text, String.append_assoc]

theorem step_callCode (command : Command) (row : String) :
    (callCode command row).step = callLine (Query.rowCall command row) := by
  cases command with
  | exec => rfl
  | one =>
      simp [callCode, callLine, Query.rowCall, CodeStep.step, Token.text, ← String.toList_inj]
  | many => simp [callCode, callLine, Query.rowCall, CodeStep.step, Token.text, String.append_assoc]

theorem map_step_fromRawCode (options : Options) (command : Command) (row : String)
    (mapping : List Mapping) :
    (fromRawCode options command row mapping).map CodeStep.step =
      fromRawLines options (Query.rowCall command row) mapping := by
  have hproperties :
      (mapping.flatMap mappingCode).map CodeStep.step = mapping.flatMap mappingLines := by
    rw [List.map_flatMap]
    simp only [map_step_mappingCode]
  cases command with
  | exec => rfl
  | one =>
      simp [fromRawCode, fromRawLines, Query.rowCall, map_step_block, hproperties, Token.text,
        String.append_assoc]
  | many =>
      cases hv3 : options.workersTypesV3 with
      | false =>
          simp [fromRawCode, fromRawLines, Query.rowCall, map_step_block, hproperties, hv3,
            CodeStep.step, Token.text, String.append_assoc]
      | true =>
          simp [fromRawCode, fromRawLines, Query.rowCall, map_step_block, hproperties, hv3,
            CodeStep.step, Token.text, String.append_assoc]

theorem map_step_thenCode (options : Options) (binding : Binding)
    (hreturns : binding.signature.returns =
      Query.returnType binding.query.command binding.query.rowTypeName)
    (hcall : binding.signature.call =
      Query.rowCall binding.query.command (Binding.rowName binding)) :
    (thenCode options binding).map CodeStep.step = thenLines options binding.signature := by
  have hraw : (if binding.signature.rawRow.isSome then
      fromRawCode options binding.query.command (Binding.rowName binding) binding.signature.mapping
      else []).map CodeStep.step = if binding.signature.rawRow.isSome then
        fromRawLines options binding.signature.call binding.signature.mapping else [] := by
    rw [apply_ite (List.map CodeStep.step), map_step_fromRawCode, hcall]
    rfl
  rw [thenCode, thenLines, map_step_block, hreturns]
  congr 1
  · simp [join_returnTokens, Token.text, String.append_assoc]
  · rw [List.map_append, List.map_append, hraw, List.map_cons, step_callCode, ← hcall]
    simp [CodeStep.step, Token.text]

/-- The lines of the function are the texts of its tokens. -/
theorem map_step_functionCode (options : Options) (binding : Binding)
    (hreturns : binding.signature.returns =
      Query.returnType binding.query.command binding.query.rowTypeName)
    (hcall : binding.signature.call =
      Query.rowCall binding.query.command (Binding.rowName binding)) :
    (functionCode options binding).map CodeStep.step = functionLines options binding := by
  have hthen := map_step_thenCode options binding hreturns hcall
  rw [functionCode, functionLines]
  simp only [List.map_append, map_step_block, hthen, map_step_parameterCode, map_step_sliceCode,
    map_step_statementCode, hreturns]
  simp [CodeStep.step, Step.opening, Token.text, join_returnTokens, String.append_assoc]

end Texts

section Plain

/-- A text that speaks of no arguments, binds nothing, and does not call the helper. -/
def Plain (text : String) : Prop :=
  ∀ word ∈ ["args", ".bind", "expandedParam"], Text.positions word.toList text.toList = []

instance (text : String) : Decidable (Plain text) :=
  inferInstanceAs (Decidable (∀ word ∈ ["args", ".bind", "expandedParam"],
    Text.positions word.toList text.toList = []))

/-- Only the tokens for it speak of arguments, bind values or call the helper. -/
def PlainLine (tokens : List Token) : Prop :=
  ∀ token ∈ tokens, ∀ text, token = .fixed text → Plain text

def PlainCode (code : List CodeStep) : Prop :=
  ∀ step ∈ code, PlainLine step.tokens

@[simp]
theorem plainLine_nil : PlainLine [] :=
  List.forall_mem_nil _

@[simp]
theorem plainLine_cons {token : Token} {rest : List Token} :
    PlainLine (token :: rest) ↔ (∀ text, token = .fixed text → Plain text) ∧ PlainLine rest :=
  List.forall_mem_cons

@[simp]
theorem plainLine_append {first second : List Token} :
    PlainLine (first ++ second) ↔ PlainLine first ∧ PlainLine second :=
  List.forall_mem_append

@[simp]
theorem plainCode_nil : PlainCode [] :=
  List.forall_mem_nil _

@[simp]
theorem plainCode_cons {step : CodeStep} {rest : List CodeStep} :
    PlainCode (step :: rest) ↔ PlainLine step.tokens ∧ PlainCode rest :=
  List.forall_mem_cons

@[simp]
theorem plainCode_append {first second : List CodeStep} :
    PlainCode (first ++ second) ↔ PlainCode first ∧ PlainCode second :=
  List.forall_mem_append

@[simp]
theorem plainCode_block {first : List Token} {body : List CodeStep} {last : String} :
    PlainCode (block first body last) ↔ PlainLine first ∧ PlainCode body ∧ Plain last := by
  simp [block, CodeStep.tokens]

theorem PlainCode.flatMap {α : Type} {part : α → List CodeStep} (h : ∀ a, PlainCode (part a))
    (values : List α) : PlainCode (values.flatMap part) := by
  intro step hstep
  obtain ⟨a, -, hstep⟩ := List.mem_flatMap.mp hstep
  exact h a step hstep

@[simp]
theorem plainLine_boundTokens (bounds : List Slice.Bound) : PlainLine (boundTokens bounds) := by
  induction bounds with
  | nil => exact plainLine_nil
  | cons bound rest ih =>
      cases rest with
      | nil => simp [boundTokens]
      | cons next rest =>
          have hseparator : Plain ", " := by decide
          simpa [boundTokens, hseparator] using ih

@[simp]
theorem plainLine_returnTokens (command : Command) (row : String) :
    PlainLine (returnTokens command row) := by
  cases command with
  | exec =>
      simp [returnTokens]
      decide
  | one =>
      simp [returnTokens]
      decide
  | many =>
      simp [returnTokens]
      decide

theorem plainCode_parameterCode (params : Option TypeDeclaration) :
    PlainCode (parameterCode params) := by
  cases params with
  | none =>
      simp [parameterCode, CodeStep.tokens]
      decide
  | some params =>
      simp [parameterCode, CodeStep.tokens]
      decide

theorem plainCode_expansionCode (expansion : Slice.Expansion) :
    PlainCode (expansionCode expansion) := by
  simp [expansionCode, CodeStep.tokens]
  decide

theorem plainCode_sliceCode (binding : Binding) : PlainCode (sliceCode binding) := by
  unfold sliceCode
  cases binding.slices with
  | none => exact plainCode_nil
  | some plan =>
      have hexpansions := PlainCode.flatMap plainCode_expansionCode plan.expansions
      simp [CodeStep.tokens, hexpansions]
      decide

theorem plainCode_statementCode (binding : Binding) : PlainCode (statementCode binding) := by
  unfold statementCode
  cases binding.slices.isSome with
  | false =>
      by_cases hbounds : binding.bounds = []
      · simp [hbounds, CodeStep.tokens]
        decide
      · simp [hbounds, CodeStep.tokens]
        decide
  | true =>
      by_cases hbounds : binding.bounds = []
      · simp [hbounds, CodeStep.tokens]
        decide
      · simp [hbounds, CodeStep.tokens]
        decide

theorem plainCode_mappingCode (mapping : Mapping) : PlainCode (mappingCode mapping) := by
  cases mapping with
  | scalar property raw =>
      simp [mappingCode, CodeStep.tokens]
      decide
  | embed property fields =>
      have hfields : PlainCode (fields.map fun (name, raw) =>
          .line [.own name, .fixed ": raw.", .own raw, .fixed ","]) := by
        rw [List.map_eq_flatMap]
        refine PlainCode.flatMap (fun _ => ?_) fields
        simp [CodeStep.tokens]
        decide
      simp [mappingCode, CodeStep.tokens, hfields]
      decide

theorem plainLine_callCode (command : Command) (row : String) :
    PlainLine (callCode command row).tokens := by
  cases command with
  | exec =>
      simp [callCode, CodeStep.tokens]
      decide
  | one =>
      simp [callCode, CodeStep.tokens]
      decide
  | many =>
      simp [callCode, CodeStep.tokens]
      decide

theorem plainCode_fromRawCode (options : Options) (command : Command) (row : String)
    (mapping : List Mapping) : PlainCode (fromRawCode options command row mapping) := by
  have hproperties := PlainCode.flatMap plainCode_mappingCode mapping
  cases command with
  | exec => exact plainCode_nil
  | one =>
      simp [fromRawCode, hproperties]
      decide
  | many =>
      cases hv3 : options.workersTypesV3 with
      | false =>
          simp [fromRawCode, hv3, CodeStep.tokens, hproperties]
          decide
      | true =>
          simp [fromRawCode, hv3, CodeStep.tokens, hproperties]
          decide

theorem plainCode_thenCode (options : Options) (binding : Binding) :
    PlainCode (thenCode options binding) := by
  have hraw : PlainCode (if binding.signature.rawRow.isSome then
      fromRawCode options binding.query.command (Binding.rowName binding) binding.signature.mapping
      else []) := by
    split
    · exact plainCode_fromRawCode _ _ _ _
    · exact plainCode_nil
  simp only [thenCode, plainCode_block, plainCode_append, plainCode_cons, plainLine_callCode, hraw]
  simp [CodeStep.tokens]
  decide

theorem plainCode_functionCode (options : Options) (binding : Binding) :
    PlainCode (functionCode options binding) := by
  simp [functionCode, CodeStep.tokens, plainCode_parameterCode, plainCode_sliceCode,
    plainCode_statementCode, plainCode_thenCode]
  decide

end Plain

section Uses

/-- The tokens of code that use what is declared elsewhere, in order. -/
def uses (code : List CodeStep) : List Token :=
  code.flatMap fun step => step.tokens.filter Token.isUse

theorem uses_append (first second : List CodeStep) :
    uses (first ++ second) = uses first ++ uses second :=
  List.flatMap_append

theorem uses_line (tokens : List Token) (rest : List CodeStep) :
    uses (.line tokens :: rest) = tokens.filter Token.isUse ++ uses rest := by
  rw [uses, List.flatMap_cons]
  rfl

theorem uses_block (first : List Token) (body : List CodeStep) (last : String) :
    uses (block first body last) = first.filter Token.isUse ++ uses body := by
  rw [block, uses_line]
  change _ ++ uses (body ++ _) = _
  rw [uses_append]
  exact congrArg _ (List.append_nil _)

theorem filter_boundTokens (bounds : List Slice.Bound) :
    (boundTokens bounds).filter Token.isUse = bounds.map .bound := by
  induction bounds with
  | nil => rfl
  | cons bound rest ih =>
      cases rest with
      | nil => rfl
      | cons next rest =>
          rw [boundTokens, List.map_cons, List.map_cons, List.intersperse_cons_cons]
          exact congrArg _ ih

theorem uses_mappingCode (mapping : List Mapping) : uses (mapping.flatMap mappingCode) = [] := by
  have hfields : ∀ fields : List (String × String), uses (fields.map fun (name, raw) =>
      .line [.own name, .fixed ": raw.", .own raw, .fixed ","]) = [] := by
    intro fields
    rw [uses, List.flatMap_map]
    exact List.flatMap_eq_nil_iff.mpr fun field _ => rfl
  rw [uses, List.flatMap_assoc]
  refine List.flatMap_eq_nil_iff.mpr fun part _ => ?_
  cases part with
  | scalar property raw => rfl
  | embed property fields =>
      change uses (.line _ :: block _ _ _) = []
      rw [uses_line, uses_block, hfields]
      rfl

def parameterUses (params : Option TypeDeclaration) : List Token :=
  match params with
  | some params => [.argsParameter, .type params.name]
  | none => []

/-- The result type uses the public row type. -/
def returnUses (query : Query) : List Token :=
  if query.command = .exec then [] else [.type query.rowTypeName]

def sliceUses (binding : Binding) : List Token :=
  match binding.slices with
  | none => []
  | some plan =>
    .constant binding.constantName :: plan.seed.map .bound ++
      plan.expansions.flatMap fun expansion =>
        [.helperCall, .argument expansion.property, .argument expansion.property]

def statementUses (binding : Binding) : List Token :=
  (if binding.slices.isSome then [] else [.constant binding.constantName]) ++
    (if binding.bounds = [] then []
      else .bindCall :: (if binding.slices.isSome then [] else binding.bounds.map .bound))

/-- The call uses the type of the rows of the database, as does what makes public rows of them. -/
def rowUses (binding : Binding) : List Token :=
  match binding.query.command with
  | .exec => []
  | .one => List.replicate (if binding.signature.rawRow.isSome then 2 else 1)
      (.type (Binding.rowName binding))
  | .many => List.replicate (if binding.signature.rawRow.isSome then 3 else 1)
      (.type (Binding.rowName binding))

theorem filter_between_fixed (front : String) (tokens : List Token) (back : String) :
    ([Token.fixed front] ++ tokens ++ [Token.fixed back]).filter Token.isUse =
      tokens.filter Token.isUse := by
  rw [List.filter_append, List.filter_append]
  exact List.append_nil _

theorem filter_returnTokens (query : Query) :
    (returnTokens query.command query.rowTypeName).filter Token.isUse = returnUses query := by
  rw [returnUses]
  cases query.command with
  | exec => rfl
  | one => rfl
  | many => rfl

theorem uses_parameterCode (params : Option TypeDeclaration) :
    uses (parameterCode params) = parameterUses params := by
  cases params with
  | none => rfl
  | some params => rfl

theorem uses_sliceCode (binding : Binding) : uses (sliceCode binding) = sliceUses binding := by
  unfold sliceCode sliceUses
  cases binding.slices with
  | none => rfl
  | some plan =>
      have hexpansions : uses (plan.expansions.flatMap expansionCode) =
          plan.expansions.flatMap fun expansion =>
            [.helperCall, .argument expansion.property, .argument expansion.property] :=
        List.flatMap_assoc
      simp [uses_line, hexpansions, filter_boundTokens, List.filter_cons, Token.isUse]

theorem uses_statementCode (binding : Binding) :
    uses (statementCode binding) = statementUses binding := by
  unfold statementCode statementUses
  cases binding.slices.isSome with
  | false =>
      by_cases hbounds : binding.bounds = []
      · simp [hbounds, uses, CodeStep.tokens, List.filter_cons, Token.isUse]
      · simp [hbounds, uses, CodeStep.tokens, filter_boundTokens, List.filter_cons, Token.isUse]
  | true =>
      by_cases hbounds : binding.bounds = []
      · simp [hbounds, uses, CodeStep.tokens, Token.isUse]
      · simp [hbounds, uses, CodeStep.tokens, List.filter_cons, Token.isUse]

theorem uses_thenCode (options : Options) (binding : Binding) :
    uses (thenCode options binding) = returnUses binding.query ++ rowUses binding := by
  have hraw : uses (if binding.signature.rawRow.isSome then
      fromRawCode options binding.query.command (Binding.rowName binding) binding.signature.mapping
      else []) = if binding.signature.rawRow.isSome then
        (match binding.query.command with
          | .exec => []
          | .one => [.type (Binding.rowName binding)]
          | .many => [.type (Binding.rowName binding), .type (Binding.rowName binding)])
      else [] := by
    rw [apply_ite uses]
    congr 1
    unfold fromRawCode
    cases binding.query.command with
    | exec => rfl
    | one =>
        simp [uses_block, uses_mappingCode, List.filter_cons, Token.isUse]
    | many =>
        cases options.workersTypesV3 with
        | false => simp [uses_block, uses_line, uses_mappingCode, List.filter_cons, Token.isUse]
        | true => simp [uses_block, uses_line, uses_mappingCode, List.filter_cons, Token.isUse]
  have hcall : uses [callCode binding.query.command (Binding.rowName binding)] =
      match binding.query.command with
      | .exec => []
      | .one => [.type (Binding.rowName binding)]
      | .many => [.type (Binding.rowName binding)] := by
    cases binding.query.command with
    | exec => rfl
    | one => rfl
    | many => rfl
  have hsteps : ∀ call raw, uses ([call, CodeStep.indent] ++ raw ++
      [.line [.fixed ".then(onFulfilled).catch(onRejected);"], .dedent]) =
      uses [call] ++ uses raw := by
    intro call raw
    rw [uses_append, uses_append]
    exact List.append_nil _
  rw [thenCode, uses_block, hsteps, hcall, hraw, filter_between_fixed, filter_returnTokens, rowUses]
  congr 1
  cases binding.query.command with
  | exec => simp
  | one => cases binding.signature.rawRow.isSome <;> rfl
  | many => cases binding.signature.rawRow.isSome <;> rfl

/-- What a function uses, in the order of its text. -/
theorem uses_functionCode (options : Options) (binding : Binding) :
    uses (functionCode options binding) =
      parameterUses binding.signature.params ++ returnUses binding.query ++ sliceUses binding ++
        statementUses binding ++ returnUses binding.query ++ rowUses binding := by
  have hdepth : uses [.dedent] = [] ∧ uses [.emptyLine] = [] := ⟨rfl, rfl⟩
  have hopening : ∀ name, uses [.line [.fixed "export function ", .own name, .fixed "("], .indent] =
      [] := fun _ => rfl
  have hbatch : uses [.line [.fixed "batch() \x7b return ps; \x7d,"]] = [] := rfl
  rw [functionCode]
  simp only [uses_append, uses_block, hopening, hdepth, hbatch, uses_parameterCode, uses_sliceCode,
    uses_statementCode, uses_thenCode, filter_between_fixed, filter_returnTokens]
  simp [Token.isUse]

end Uses

end TypedSql.Script
