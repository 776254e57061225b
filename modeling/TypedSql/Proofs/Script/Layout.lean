import TypedSql.Script.Querier

/-!
Balanced layouts: steps that never dedent below the depth at which they begin, and end at that
depth. What the generated files are made of is balanced, so the text of a file is the text of its
parts, one after the other.
-/

namespace TypedSql.Script

namespace Step

def Balanced (steps : List Step) : Prop :=
  ∀ depth, depthAfter? depth steps = some depth

theorem Balanced.nil : Balanced [] := fun _ => rfl

@[simp] theorem balanced_line {text : String} {rest : List Step} :
    Balanced (.line text :: rest) ↔ Balanced rest := Iff.rfl

@[simp] theorem balanced_verbatim {text : String} {rest : List Step} :
    Balanced (.verbatim text :: rest) ↔ Balanced rest := Iff.rfl

theorem Balanced.line (text : String) : Balanced [.line text] := fun _ => rfl

theorem Balanced.append {first second : List Step} (hfirst : Balanced first)
    (hsecond : Balanced second) : Balanced (first ++ second) := by
  intro depth
  rw [depthAfter?_append, hfirst depth]
  exact hsecond depth

theorem Balanced.flatMap {α : Type} {f : α → List Step} {xs : List α}
    (h : ∀ x ∈ xs, Balanced (f x)) : Balanced (xs.flatMap f) := by
  induction xs with
  | nil => exact .nil
  | cons x xs ih =>
      rw [List.flatMap_cons]
      have hrest := ih fun x' hx' => h x' (List.mem_cons_of_mem x hx')
      exact (h x (by simp)).append hrest

theorem Balanced.lines {α : Type} (f : α → String) (xs : List α) :
    Balanced (xs.map fun x => .line (f x)) := by
  induction xs with
  | nil => exact .nil
  | cons x xs ih => exact balanced_line.mpr ih

/-- Balanced steps, one level deeper. -/
theorem Balanced.indented {body rest : List Step} (hbody : Balanced body) (hrest : Balanced rest) :
    Balanced (.indent :: (body ++ .dedent :: rest)) := by
  intro depth
  rw [depthAfter?, depthAfter?_append, hbody (depth + 1)]
  exact hrest depth

theorem Balanced.block {first last : String} {body : List Step} (h : Balanced body) :
    Balanced (block first body last) := by
  change Balanced (.line first :: .indent :: (body ++ .dedent :: [.line last]))
  exact balanced_line.mpr (h.indented (Balanced.line _))

theorem Balanced.pieces_append {first second : List Step} (h : Balanced first) (depth : Nat) :
    pieces depth (first ++ second) = pieces depth first ++ pieces depth second :=
  Step.pieces_append (h depth)

/-- The lines of a block, and between its ends those of its body one level deeper. -/
theorem Balanced.pieces_block {body : List Step} (h : Balanced body) (depth : Nat)
    (first last : String) :
    pieces depth (Step.block first body last) =
      (margin depth ++ first ++ "\n") :: pieces (depth + 1) body ++
        [margin depth ++ last ++ "\n"] := by
  change _ :: pieces (depth + 1) (body ++ [.dedent, .line last]) = _
  rw [h.pieces_append]
  rfl

theorem Balanced.render_append {first second : List Step} (h : Balanced first) :
    render (first ++ second) = render first ++ render second := by
  rw [render, h.pieces_append, String.join_append]
  rfl

theorem render_flatMap {α : Type} {f : α → List Step} {xs : List α}
    (h : ∀ x ∈ xs, Balanced (f x)) :
    render (xs.flatMap f) = String.join (xs.map fun x => render (f x)) := by
  induction xs with
  | nil => rfl
  | cons x xs ih =>
      have hrest := ih fun x' hx' => h x' (List.mem_cons_of_mem x hx')
      rw [List.flatMap_cons, (h x (by simp)).render_append, hrest, List.map_cons, String.join_cons]

@[simp] theorem render_verbatim (text : String) (rest : List Step) :
    render (.verbatim text :: rest) = text ++ render rest := by
  rw [render, pieces, String.join_cons]
  rfl

@[simp] theorem render_line (text : String) (rest : List Step) :
    render (.line text :: rest) = text ++ "\n" ++ render rest := by
  rw [render, pieces, String.join_cons]
  change "" ++ text ++ "\n" ++ _ = _
  rw [String.empty_append]
  rfl

@[simp] theorem render_nil : render [] = "" := rfl

end Step

open Step

theorem TypeDeclaration.balanced_steps (declaration : TypeDeclaration) :
    Balanced declaration.steps := by
  have hfields := Balanced.lines
    (fun field : Field => field.name ++ ": " ++ field.type ++ ";") declaration.fields
  exact hfields.block.append (balanced_verbatim.mpr .nil)

theorem balanced_constant (binding : Binding) : Balanced (constant binding) := by
  simp only [constant, blank, balanced_verbatim]
  exact .nil

theorem balanced_mappingLines (mapping : Mapping) : Balanced (mappingLines mapping) := by
  cases mapping with
  | scalar property raw => exact .line _
  | embed property fields =>
      have hfields := Balanced.lines
        (fun field : String × String => field.1 ++ ": raw." ++ field.2 ++ ",") fields
      exact balanced_line.mpr hfields.block

theorem balanced_fromRawLines (options : Options) (call : Call) (mapping : List Mapping) :
    Balanced (fromRawLines options call mapping) := by
  have hproperties : Balanced (mapping.flatMap mappingLines) :=
    .flatMap fun part _ => balanced_mappingLines part
  cases call with
  | first row => exact hproperties.block
  | all row =>
      refine Balanced.block (balanced_line.mpr ?_)
      split
      · exact hproperties.block
      · exact hproperties.block
  | run => exact .nil

theorem balanced_thenLines (options : Options) (signature : Signature) :
    Balanced (thenLines options signature) := by
  have hcall : ∀ rest, Balanced rest → Balanced (callLine signature.call :: rest) := by
    intro rest hrest
    unfold callLine
    split
    · exact balanced_line.mpr hrest
    · exact balanced_line.mpr hrest
    · exact balanced_line.mpr hrest
  have hraw : Balanced (if signature.rawRow.isSome then
      fromRawLines options signature.call signature.mapping else []) := by
    split
    · exact balanced_fromRawLines options signature.call signature.mapping
    · exact .nil
  have hsteps := (hraw.append (.line ".then(onFulfilled).catch(onRejected);")).indented .nil
  refine Balanced.block ?_
  simpa using hcall _ hsteps

theorem balanced_sliceLines (binding : Binding) : Balanced (sliceLines binding) := by
  unfold sliceLines
  split
  · exact .nil
  · refine balanced_line.mpr (balanced_line.mpr ?_)
    refine Balanced.flatMap ?_
    intro expansion _
    exact balanced_line.mpr (.line _)

theorem balanced_statementLines (binding : Binding) : Balanced (statementLines binding) := by
  have hbody : ∀ text values, Balanced (if binding.bounds = [] then
      [.line (".prepare(" ++ text ++ ");")]
      else [.line (".prepare(" ++ text ++ ")"), .line (".bind(" ++ values ++ ");")]) := by
    intro text values
    split
    · exact .line _
    · exact balanced_line.mpr (.line _)
  exact balanced_line.mpr ((hbody _ _).indented .nil)

theorem balanced_functionLines (options : Options) (binding : Binding) :
    Balanced (functionLines options binding) := by
  have hparams : Balanced (parameterLines binding.signature.params) := by
    unfold parameterLines
    split
    · exact balanced_line.mpr (.line _)
    · exact .line _
  have hreturn := (balanced_thenLines options binding.signature).append
    (.line "batch() \x7b return ps; \x7d,")
  have hbody := (balanced_sliceLines binding).append (balanced_statementLines binding)
  have hopening : Balanced (opening ("export function " ++ binding.functionName ++ "(") ++
      (parameterLines binding.signature.params ++ [.dedent])) :=
    balanced_line.mpr (hparams.indented .nil)
  exact (hopening.append (hbody.append hreturn.block).block).append (balanced_verbatim.mpr .nil)

theorem balanced_sectionLines (options : Options) (binding : Binding) :
    Balanced (sectionLines options binding) := by
  have htypes := Balanced.flatMap
    fun declaration (_ : declaration ∈ declarations binding.signature) =>
    declaration.balanced_steps
  exact ((balanced_constant binding).append htypes).append (balanced_functionLines options binding)

end TypedSql.Script
