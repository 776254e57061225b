import TypedSql.Proofs.Script.Items
import TypedSql.Proofs.Script.Literal
import TypedSql.Proofs.Script.Nesting

/-!
Indentation and brackets of the file of query functions.

The parts of the file are balanced, so nothing is dedented below the margin and every part begins
and ends there. The brackets of a part are opened and closed by different lines, some of them
several at once, with whole objects in between. So each line is described by the brackets that are
open before and after it, and the lines of a part are put together where these agree.
-/

namespace TypedSql.Script

open Step (Balanced blank block depthAfter? opening pieces render)

/-- Reading a text where some brackets are open leaves others open. -/
def Turns (opened : List Char) (text : String) (left : List Char) : Prop :=
  (Reading.mk opened .code).after? text.toList = some ⟨left, .code⟩

instance (opened : List Char) (text : String) (left : List Char) :
    Decidable (Turns opened text left) :=
  inferInstanceAs (Decidable (_ = _))

namespace Turns

variable {opened left right : List Char} {text first second front back : String}

theorem append (hfirst : Turns opened first left) (hsecond : Turns left second right) :
    Turns opened (first ++ second) right := by
  rw [Turns, String.toList_append]
  exact Reading.after?_trans hfirst hsecond

theorem nested (h : Nested text.toList) : Turns opened text opened :=
  Reading.after?_nested h

/-- A nested text between two others. -/
theorem between (left : List Char) (hfront : Turns opened front left) (htext : Nested text.toList)
    (hback : Turns left back right) : Turns opened (front ++ text ++ back) right :=
  (hfront.append (nested htext)).append hback

end Turns

theorem nested_iff_turns {text : String} : Nested text.toList ↔ Turns [] text [] :=
  nested_iff

theorem nested_margin (depth : Nat) : Nested (Step.margin depth).toList := by
  apply Nested.of_plain
  intro c hc
  rw [Step.margin, String.toList_ofList] at hc
  rw [List.eq_of_mem_replicate hc]
  rfl

theorem isPlain_of_isDigit {c : Char} (h : c.isDigit = true) : isPlain c = true := by
  have hne : ∀ d : Char, d.isDigit = false → c ≠ d := by
    rintro d hd rfl
    rw [h] at hd
    cases hd
  simp [isPlain, partner?, isClosing, isQuote, hne]

theorem nested_toString (n : Nat) : Nested (toString n).toList := by
  apply Nested.of_plain
  intro c hc
  rw [Nat.toString_eq_repr, Nat.repr, String.toList_ofList] at hc
  exact isPlain_of_isDigit (Nat.isDigit_of_mem_toDigits (by omega) (by omega) hc)

section Literals

variable {quote : Char} {text rest first second : List Char}

theorem LiteralBody.append (hfirst : LiteralBody quote first) (hsecond : LiteralBody quote second) :
    LiteralBody quote (first ++ second) := by
  induction hfirst with
  | nil => exact hsecond
  | plain hslash hquote _ ih => exact .plain hslash hquote ih
  | escaped _ ih => exact .escaped ih

theorem LiteralBody.of_notMem (hslash : '\\' ∉ text) (hquote : quote ∉ text) :
    LiteralBody quote text := by
  induction text with
  | nil => exact .nil
  | cons c text ih =>
      rw [List.mem_cons, not_or] at hslash hquote
      exact .plain (Ne.symm hslash.1) (Ne.symm hquote.1) (ih hslash.2 hquote.2)

/-- A backslash at the end of a text without quotes takes only the space behind it along. -/
theorem LiteralBody.append_space (hspace : quote ≠ ' ') (hrest : LiteralBody quote rest) :
    ∀ text : List Char, quote ∉ text → LiteralBody quote (text ++ ' ' :: rest)
  | [], _ => .plain (by decide) hspace.symm hrest
  | [c], hquote => by
      by_cases hslash : c = '\\'
      · rw [hslash]
        exact .escaped hrest
      · rw [List.mem_singleton] at hquote
        exact .plain hslash (Ne.symm hquote) (.plain (by decide) hspace.symm hrest)
  | c :: d :: text, hquote => by
      rw [List.mem_cons, not_or] at hquote
      by_cases hslash : c = '\\'
      · rw [hslash]
        rw [List.mem_cons, not_or] at hquote
        exact .escaped (append_space hspace hrest text hquote.2.2)
      · exact .plain hslash (Ne.symm hquote.1) (append_space hspace hrest (d :: text) hquote.2)

theorem nested_stringLiteral (text : String) : Nested (stringLiteral text).toList := by
  have hbody : ∀ chars : List Char, LiteralBody '"' (chars.flatMap stringChar) := by
    intro chars
    induction chars with
    | nil => exact .nil
    | cons c chars ih =>
        rw [List.flatMap_cons, stringChar]
        split
        · exact .escaped ih
        · next hspecial =>
            rw [not_or] at hspecial
            exact .plain hspecial.1 hspecial.2 ih
  rw [stringLiteral, String.toList_ofList]
  exact .literal rfl (hbody text.toList) .nil

theorem literalBody_templateChars (text : List Char) : LiteralBody '\x60' (templateChars text) := by
  induction text with
  | nil => exact .nil
  | cons c text ih =>
      by_cases hescaped : Escaped c text
      · rw [templateChars_escaped hescaped]
        exact .escaped ih
      · rw [templateChars_plain hescaped]
        exact .plain (fun hslash => hescaped (Or.inl hslash))
          (fun hquote => hescaped (Or.inr (Or.inl hquote))) ih

end Literals

namespace Step

/-- The text of steps goes on at some depth with the text of the steps after them. -/
theorem exists_pieces_append (depth : Nat) (first second : List Step) :
    ∃ depth', pieces depth (first ++ second) = pieces depth first ++ pieces depth' second := by
  induction first generalizing depth with
  | nil => exact ⟨depth, rfl⟩
  | cons step first ih =>
      cases step with
      | line text =>
          obtain ⟨depth', hpieces⟩ := ih depth
          exact ⟨depth', congrArg (_ :: ·) hpieces⟩
      | verbatim text =>
          obtain ⟨depth', hpieces⟩ := ih depth
          exact ⟨depth', congrArg (_ :: ·) hpieces⟩
      | indent => exact ih (depth + 1)
      | dedent => exact ih (depth - 1)

theorem Balanced.flatten {parts : List (List Step)} (h : ∀ part ∈ parts, Balanced part) :
    Balanced parts.flatten := by
  rw [← List.flatMap_id]
  exact Balanced.flatMap h

theorem Balanced.of_append {first second : List Step} (h : Balanced (first ++ second))
    (hsecond : Balanced second) : Balanced first := by
  intro depth
  have happend := h depth
  rw [depthAfter?_append] at happend
  rwa [show (fun depth => depthAfter? depth second) = some from funext hsecond,
    Option.bind_fun_some] at happend

/-- Where steps lead somewhere, each dedent stands deeper than the margin. -/
theorem exists_depth_of_dedent {depth final : Nat} {steps front back : List Step}
    (h : depthAfter? depth steps = some final) (hsteps : steps = front ++ .dedent :: back) :
    ∃ outer, depthAfter? depth front = some (outer + 1) := by
  rw [hsteps, depthAfter?_append] at h
  obtain ⟨inner, hfront, hback⟩ := Option.bind_eq_some_iff.mp h
  cases inner with
  | zero => cases hback
  | succ outer => exact ⟨outer, hfront⟩

end Step

/-- Steps whose text takes a reading from some open brackets to others, at every depth. -/
def StepsTurn (opened : List Char) (steps : List Step) (left : List Char) : Prop :=
  ∀ depth, Turns opened (String.join (pieces depth steps)) left

def NestedSteps (steps : List Step) : Prop :=
  ∀ depth, Nested (String.join (pieces depth steps)).toList

namespace StepsTurn

variable {opened left right : List Char} {text first last : String} {steps rest : List Step}

theorem nil : StepsTurn opened [] opened := fun _ => rfl

theorem line (htext : Turns opened text left) (hrest : StepsTurn left rest right) :
    StepsTurn opened (.line text :: rest) right := by
  intro depth
  have hend : Turns left "\n" left := by
    apply Turns.nested
    decide
  rw [pieces, String.join_cons]
  exact (((Turns.nested (nested_margin depth)).append htext).append hend).append (hrest depth)

theorem verbatim (htext : Turns opened text left) (hrest : StepsTurn left rest right) :
    StepsTurn opened (.verbatim text :: rest) right := by
  intro depth
  rw [pieces, String.join_cons]
  exact htext.append (hrest depth)

theorem indent (hrest : StepsTurn opened rest left) : StepsTurn opened (.indent :: rest) left :=
  fun depth => hrest (depth + 1)

theorem dedent (hrest : StepsTurn opened rest left) : StepsTurn opened (.dedent :: rest) left :=
  fun depth => hrest (depth - 1)

theorem append (hsteps : StepsTurn opened steps left) (hrest : StepsTurn left rest right) :
    StepsTurn opened (steps ++ rest) right := by
  intro depth
  obtain ⟨depth', hpieces⟩ := Step.exists_pieces_append depth steps rest
  rw [hpieces, String.join_append]
  exact (hsteps depth).append (hrest depth')

theorem nested (h : NestedSteps steps) : StepsTurn opened steps opened :=
  fun depth => Turns.nested (h depth)

theorem block (left : List Char) (hfirst : Turns opened first left) (hbody : NestedSteps steps)
    (hlast : Turns left last right) : StepsTurn opened (Step.block first steps last) right :=
  line hfirst (indent ((nested hbody).append (dedent (line hlast nil))))

end StepsTurn

namespace NestedSteps

variable {text first last : String} {steps rest : List Step}

theorem iff_turn : NestedSteps steps ↔ StepsTurn [] steps [] :=
  forall_congr' fun _ => nested_iff_turns

theorem nil : NestedSteps [] := fun _ => .nil

theorem line (htext : Nested text.toList) (hrest : NestedSteps rest) :
    NestedSteps (.line text :: rest) :=
  iff_turn.mpr (StepsTurn.line (Turns.nested htext) (iff_turn.mp hrest))

theorem append (hsteps : NestedSteps steps) (hrest : NestedSteps rest) :
    NestedSteps (steps ++ rest) :=
  iff_turn.mpr ((iff_turn.mp hsteps).append (iff_turn.mp hrest))

theorem block (left : List Char) (hfirst : Turns [] first left) (hbody : NestedSteps steps)
    (hlast : Turns left last []) : NestedSteps (Step.block first steps last) :=
  iff_turn.mpr (StepsTurn.block left hfirst hbody hlast)

theorem flatMap {α : Type} {f : α → List Step} {xs : List α} (h : ∀ x ∈ xs, NestedSteps (f x)) :
    NestedSteps (xs.flatMap f) := by
  induction xs with
  | nil => exact nil
  | cons x xs ih =>
      rw [List.forall_mem_cons] at h
      rw [List.flatMap_cons]
      exact h.1.append (ih h.2)

theorem lines {α : Type} {f : α → String} {xs : List α} (h : ∀ x ∈ xs, Nested (f x).toList) :
    NestedSteps (xs.map fun x => .line (f x)) := by
  rw [List.map_eq_flatMap]
  apply flatMap
  intro x hx
  exact line (h x hx) nil

end NestedSteps

theorem nested_intercalate {texts : List String} (h : ∀ text ∈ texts, Nested text.toList) :
    Nested (String.intercalate ", " texts).toList := by
  induction texts with
  | nil => exact .nil
  | cons text texts ih =>
      rw [List.forall_mem_cons] at h
      cases texts with
      | nil =>
          rw [String.intercalate_singleton]
          exact h.1
      | cons next texts =>
          have hseparator : Nested ", ".toList := by decide
          rw [String.intercalate_cons_cons, String.toList_append, String.toList_append]
          exact (h.1.append hseparator).append (ih h.2)

def mappingNames : Mapping → List String
  | .scalar property raw => [property, raw]
  | .embed property fields => property :: fields.flatMap fun (name, raw) => [name, raw]

/-- What a query puts into the code of its section: names, types, and the values that it binds.
These are nested, and no backquote in the name of the query ends the template with its text. The
mapping is put in only with a raw row, and the values only without list parameters, which bring
their own. -/
structure InsertsNested (binding : Binding) : Prop where
  queryName : '\x60' ∉ binding.query.name.toList
  constantName : Nested binding.constantName.toList
  functionName : Nested binding.functionName.toList
  declarations : ∀ declaration ∈ declarations binding.signature,
    Nested declaration.name.toList ∧
      ∀ field ∈ declaration.fields, Nested field.name.toList ∧ Nested field.type.toList
  returns : Nested binding.signature.returns.toList
  row : ∀ row ∈ binding.signature.call.row?, Nested row.toList
  mapping : binding.signature.rawRow.isSome → ∀ part ∈ binding.signature.mapping,
    ∀ name ∈ mappingNames part, Nested name.toList
  bounds : binding.slices = none → ∀ bound ∈ binding.bounds, Nested bound.expression.toList
  slices : ∀ plan ∈ binding.slices, (∀ bound ∈ plan.seed, Nested bound.expression.toList) ∧
    ∀ expansion ∈ plan.expansions, Nested expansion.property.toList

section Parts

/-- A nested text between two others. The second of them closes what the first one opens. -/
theorem nested_between {front text back : String} (left : List Char) (hfront : Turns [] front left)
    (htext : Nested text.toList) (hback : Turns left back []) :
    Nested (front ++ text ++ back).toList :=
  nested_iff_turns.mpr (hfront.between left htext hback)

/-- A name and what it stands for, with something between the two and something behind. -/
theorem nested_entry {name separator value finish : String} (hname : Nested name.toList)
    (hseparator : Nested separator.toList) (hvalue : Nested value.toList)
    (hfinish : Nested finish.toList) : Nested (name ++ separator ++ value ++ finish).toList :=
  nested_between [] ((Turns.nested hname).append (.nested hseparator)) hvalue (.nested hfinish)

theorem nestedSteps_type {declaration : TypeDeclaration} (hname : Nested declaration.name.toList)
    (hfields : ∀ field ∈ declaration.fields, Nested field.name.toList ∧ Nested field.type.toList) :
    NestedSteps declaration.steps := by
  have hlines : NestedSteps (declaration.fields.map fun field =>
      .line (field.name ++ ": " ++ field.type ++ ";")) := by
    apply NestedSteps.lines
    intro field hfield
    obtain ⟨hname, htype⟩ := hfields field hfield
    refine nested_entry hname ?_ htype ?_
    all_goals decide
  have hkeyword : Nested (if declaration.exported then "export type " else "type ").toList := by
    split
    all_goals decide
  have hfirst : Turns [] ((if declaration.exported then "export type " else "type ") ++
      declaration.name ++ " = \x7b") ['\x7d'] :=
    .between [] (.nested hkeyword) hname (by decide)
  have hblank : NestedSteps [blank] := NestedSteps.iff_turn.mpr (.verbatim (by decide) .nil)
  exact (NestedSteps.block ['\x7d'] hfirst hlines (by decide)).append hblank

/-- The heading of a query's text and the text itself stand in one template. -/
theorem literalBody_queryText {name : String} (hname : '\x60' ∉ name.toList) (command : Command)
    (text : String) :
    LiteralBody '\x60' ("-- name: ".toList ++ (name.toList ++
      ' ' :: ((command.keyword ++ "\n").toList ++ templateChars text.toList))) := by
  have hfront : LiteralBody '\x60' "-- name: ".toList := .of_notMem (by decide) (by decide)
  have hcommand : LiteralBody '\x60' (command.keyword ++ "\n").toList := by
    cases command
    all_goals exact .of_notMem (by decide) (by decide)
  exact hfront.append (.append_space (by decide)
    (hcommand.append (literalBody_templateChars text.toList)) name.toList hname)

variable {binding : Binding}

theorem nested_constant (h : InsertsNested binding) :
    Nested (render (constant binding)).toList := by
  have hbody := literalBody_queryText h.queryName binding.query.command binding.text
  have hend : Nested ";\n\n".toList := by decide
  have hvalue := Nested.literal rfl hbody hend
  have hfront : Nested ("const " ++ binding.constantName ++ " = ").toList := by
    refine nested_between [] ?_ h.constantName ?_
    all_goals decide
  have htext : (render (constant binding)).toList =
      ("const " ++ binding.constantName ++ " = ").toList ++ '\x60' :: ("-- name: ".toList ++
        (binding.query.name.toList ++ ' ' :: ((binding.query.command.keyword ++ "\n").toList ++
          templateChars binding.text.toList)) ++ '\x60' :: ";\n\n".toList) := by
    rw [render_constant, constantItem, Item.text]
    simp [templateBody]
  rw [htext]
  exact hfront.append hvalue

theorem nestedSteps_mappingLines {part : Mapping}
    (h : ∀ name ∈ mappingNames part, Nested name.toList) : NestedSteps (mappingLines part) := by
  cases part with
  | scalar property raw =>
      have hproperty := h property (by simp [mappingNames])
      have hraw := h raw (by simp [mappingNames])
      refine .line (nested_entry hproperty ?_ hraw ?_) .nil
      all_goals decide
  | embed property fields =>
      have hproperty := h property (by simp [mappingNames])
      have hfields : NestedSteps (fields.map fun (name, raw) =>
          .line (name ++ ": raw." ++ raw ++ ",")) := by
        apply NestedSteps.lines
        intro field hfield
        have hnames : ∀ name ∈ [field.1, field.2], Nested name.toList := by
          intro name hname
          exact h name (List.mem_cons_of_mem _ (List.mem_flatMap.mpr ⟨field, hfield, hname⟩))
        have hname := hnames field.1 (by simp)
        have hraw := hnames field.2 (by simp)
        refine nested_entry hname ?_ hraw ?_
        all_goals decide
      refine .line (nested_between [')'] ?_ hproperty ?_)
        (.block ['\x7d'] ((Turns.nested hproperty).append ?_) hfields ?_)
      all_goals decide

/-- Two objects are opened at once for a list of rows, and closed at once. -/
theorem nestedSteps_fromRawLines (options : Options) {call : Call} {mapping : List Mapping}
    (hrow : ∀ row ∈ call.row?, Nested row.toList)
    (hmapping : ∀ part ∈ mapping, ∀ name ∈ mappingNames part, Nested name.toList) :
    NestedSteps (fromRawLines options call mapping) := by
  have hproperties : NestedSteps (mapping.flatMap mappingLines) :=
    .flatMap fun part hpart => nestedSteps_mappingLines (hmapping part hpart)
  cases call with
  | first row =>
      refine .block ['\x7d', ')'] (.between [')', ')'] ?_ (hrow row rfl) ?_) hproperties ?_
      all_goals decide
  | all row =>
      refine .block ['\x7d', '\x7d', ')'] (.between [')', ')'] ?_ (hrow row rfl) ?_)
        (.line ?_ ?results) ?_
      case results =>
        split
        all_goals
          refine .block ['\x7d', '\x7d', ')'] (.between [')', ')'] ?_ (hrow row rfl) ?_)
            hproperties ?_
          all_goals decide
      all_goals decide
  | run => exact .nil

theorem nestedSteps_callLine {call : Call} (hrow : ∀ row ∈ call.row?, Nested row.toList) :
    NestedSteps [callLine call] := by
  cases call with
  | first row =>
      refine .line (nested_between [] ?_ (hrow row rfl) ?_) .nil
      all_goals decide
  | all row =>
      refine .line (nested_between [] ?_ (hrow row rfl) ?_) .nil
      all_goals decide
  | run => exact .line (by decide) .nil

theorem nestedSteps_thenLines (options : Options) (h : InsertsNested binding) :
    NestedSteps (thenLines options binding.signature) := by
  have hraw : NestedSteps (if binding.signature.rawRow.isSome then
      fromRawLines options binding.signature.call binding.signature.mapping else []) := by
    split
    · next hraw => exact nestedSteps_fromRawLines options h.row (h.mapping hraw)
    · exact .nil
  have hlast : StepsTurn [] [.line ".then(onFulfilled).catch(onRejected);", .dedent] [] :=
    .line (by decide) (.dedent .nil)
  have hchain := (StepsTurn.nested hraw).append hlast
  have hbody := NestedSteps.append (nestedSteps_callLine h.row)
    (NestedSteps.iff_turn.mpr (.indent hchain))
  refine .block ['\x7d'] (.between [')', ')'] ?_ h.returns ?_) ?body ?_
  case body => simpa using hbody
  all_goals decide

theorem nested_boundList {bounds : List Slice.Bound}
    (h : ∀ bound ∈ bounds, Nested bound.expression.toList) : Nested (boundList bounds).toList :=
  nested_intercalate (List.forall_mem_map.mpr h)

theorem nestedSteps_expansionLines {expansion : Slice.Expansion}
    (hproperty : Nested expansion.property.toList) : NestedSteps (expansionLines expansion) := by
  have hmarker : Turns [] ("query = query.replace(" ++ stringLiteral expansion.marker ++
      ", expandedParam(") [')', ')'] := by
    refine .between [')'] ?_ (nested_stringLiteral expansion.marker) ?_
    all_goals decide
  have hnumber : Turns [] ("query = query.replace(" ++ stringLiteral expansion.marker ++
      ", expandedParam(" ++ toString expansion.number.toNat ++ ", args.") [')', ')'] :=
    hmarker.between [')', ')'] (nested_toString expansion.number.toNat) (by decide)
  refine .line (nested_between [')', ')'] hnumber hproperty ?_)
    (.line (nested_between [')'] ?_ hproperty ?_) .nil)
  all_goals decide

theorem nestedSteps_sliceLines (h : InsertsNested binding) : NestedSteps (sliceLines binding) := by
  unfold sliceLines
  split
  · exact .nil
  · next plan hplan =>
      obtain ⟨hseed, hproperties⟩ := h.slices plan hplan
      have hexpansions : NestedSteps (plan.expansions.flatMap expansionLines) :=
        .flatMap fun expansion hexpansion =>
          nestedSteps_expansionLines (hproperties expansion hexpansion)
      refine .line (nested_between [] ?_ h.constantName ?_)
        (.line (nested_between [']'] ?_ (nested_boundList hseed) ?_) hexpansions)
      all_goals decide

/-- With list parameters the statement is prepared and bound from two local variables. -/
theorem nestedSteps_statementLines (h : InsertsNested binding) :
    NestedSteps (statementLines binding) := by
  have hcalls : ∀ text values, Nested text.toList → Nested values.toList →
      NestedSteps (if binding.bounds = [] then [.line (".prepare(" ++ text ++ ");")]
        else [.line (".prepare(" ++ text ++ ")"), .line (".bind(" ++ values ++ ");")]) := by
    intro text values htext hvalues
    split
    · refine .line (nested_between [')'] ?_ htext ?_) .nil
      all_goals decide
    · refine .line (nested_between [')'] ?_ htext ?_)
        (.line (nested_between [')'] ?_ hvalues ?_) .nil)
      all_goals decide
  have htext : Nested (if binding.slices.isSome then "query" else binding.constantName).toList := by
    split
    · decide
    · exact h.constantName
  have hvalues : Nested
      (if binding.slices.isSome then "...params" else boundList binding.bounds).toList := by
    split
    · decide
    · next hslices => exact nested_boundList (h.bounds (Option.not_isSome_iff_eq_none.mp hslices))
  have hlines := hcalls _ _ htext hvalues
  exact NestedSteps.iff_turn.mpr
    (.line (by decide) (.indent ((StepsTurn.nested hlines).append (.dedent .nil))))

theorem nestedSteps_functionLines (options : Options) (h : InsertsNested binding) :
    NestedSteps (functionLines options binding) := by
  have hparameters : NestedSteps (parameterLines binding.signature.params) := by
    have hdeclarations := h.declarations
    unfold parameterLines
    split
    · next params hparams =>
        have hname := (hdeclarations params (by simp [declarations, hparams])).1
        have hargs : Nested ("args: " ++ params.name).toList := by
          rw [String.toList_append]
          exact Nested.append (by decide) hname
        exact .line (by decide) (.line hargs .nil)
    · exact .line (by decide) .nil
  have hopening : StepsTurn [] (opening ("export function " ++ binding.functionName ++ "(") ++
      (parameterLines binding.signature.params ++ [.dedent])) [')'] := by
    refine .line (.between [] ?_ h.functionName ?_)
      (.indent ((StepsTurn.nested hparameters).append (.dedent .nil)))
    all_goals decide
  have hreturn : NestedSteps (Step.block "return \x7b"
      (thenLines options binding.signature ++ [.line "batch() \x7b return ps; \x7d,"]) "\x7d") := by
    refine .block ['\x7d'] ?_ ((nestedSteps_thenLines options h).append (.line ?_ .nil)) ?_
    all_goals decide
  have hbody := ((nestedSteps_sliceLines h).append (nestedSteps_statementLines h)).append hreturn
  have hfirst : Turns [')'] ("): Query<" ++ binding.signature.returns ++ "> \x7b") ['\x7d'] := by
    refine .between [] ?_ h.returns ?_
    all_goals decide
  have hblank : StepsTurn [] [blank] [] := .verbatim (by decide) .nil
  exact NestedSteps.iff_turn.mpr
    ((hopening.append (.block ['\x7d'] hfirst hbody (by decide))).append hblank)

end Parts

section File

variable (options : Options) (bindings : List Binding) (banner : String)

def preamble (models : List String) : List Step :=
  let lines := imports options models
  [.verbatim banner, blank] ++ lines.map .line ++ (if lines = [] then [] else [blank])

def sectionParts (binding : Binding) : List (List Step) :=
  constant binding :: (declarations binding.signature).map TypeDeclaration.steps ++
    [functionLines options binding]

/-- The parts of the file of query functions. Each but the first and the last is one constant, one
type or one function. The last is the helper, or nothing. -/
def querierParts : List (List Step) :=
  [preamble options banner (usedModels bindings), [.verbatim queryType, blank]] ++
    bindings.flatMap (sectionParts options) ++ [footer bindings]

theorem flatten_querierParts :
    (querierParts options bindings banner).flatten =
      header options (usedModels bindings) banner ++ bindings.flatMap (sectionLines options) ++
        footer bindings := by
  have hsection : List.flatten ∘ sectionParts options = sectionLines options := by
    funext binding
    simp [sectionParts, sectionLines, List.flatMap_def]
  have hheader : header options (usedModels bindings) banner =
      preamble options banner (usedModels bindings) ++ [.verbatim queryType, blank] := rfl
  rw [querierParts, hheader]
  simp [List.flatMap_def, List.flatten_flatten, hsection]

variable {options bindings banner}

theorem mem_sectionParts {binding : Binding} {part : List Step} :
    part ∈ sectionParts options binding ↔
      part = constant binding ∨
      (∃ declaration ∈ declarations binding.signature, part = declaration.steps) ∨
      part = functionLines options binding := by
  simp only [sectionParts, List.cons_append, List.mem_cons, List.mem_append, List.mem_map,
    List.not_mem_nil, or_false, eq_comm]

theorem balanced_querierParts :
    ∀ part ∈ querierParts options bindings banner, Balanced part := by
  intro part hpart
  simp only [querierParts, List.mem_append, List.mem_cons, List.not_mem_nil, or_false,
    List.mem_flatMap] at hpart
  rcases hpart with ((rfl | rfl) | ⟨binding, -, hpart⟩) | rfl
  · have hquery : Balanced [.verbatim queryType, blank] := fun _ => rfl
    exact .of_append (balanced_header options (usedModels bindings) banner) hquery
  · exact fun _ => rfl
  · rcases mem_sectionParts.mp hpart with rfl | ⟨declaration, -, rfl⟩ | rfl
    · exact balanced_constant binding
    · exact declaration.balanced_steps
    · exact balanced_functionLines options binding
  · unfold footer
    split
    · exact fun _ => rfl
    · exact .nil

theorem nested_sectionParts {binding : Binding} (h : InsertsNested binding) :
    ∀ part ∈ sectionParts options binding, Nested (render part).toList := by
  intro part hpart
  rcases mem_sectionParts.mp hpart with rfl | ⟨declaration, hdeclaration, rfl⟩ | rfl
  · exact nested_constant h
  · obtain ⟨hname, hfields⟩ := h.declarations declaration hdeclaration
    exact nestedSteps_type hname hfields 0
  · exact nestedSteps_functionLines options h 0

end File

theorem nested_queryType : Nested queryType.toList := by
  unfold queryType
  simp only [String.toList_append]
  decide

theorem nested_expandedParam : Nested expandedParam.toList := by
  unfold expandedParam
  simp only [String.toList_append]
  decide +kernel

/-- The file of query functions is laid out and nested throughout. No step dedents below the margin,
and between two parts, that is before and after every constant, type and function, the depth is
zero. The type of a query in flight and the helper are nested, and so is all that a section declares
if what its query puts in is nested. That holds with parameters or without, with list parameters,
with a raw row and embedded tables in it, and for both forms of the types package. -/
theorem querier_nesting (options : Options) (bindings : List Binding) (banner : String) :
    querierText bindings options banner = render (querierParts options bindings banner).flatten ∧
    querierText bindings options banner =
      String.join ((querierParts options bindings banner).map render) ∧
    (∀ front back, (querierParts options bindings banner).flatten = front ++ .dedent :: back →
      ∃ depth, depthAfter? 0 front = some (depth + 1)) ∧
    (∀ front back, querierParts options bindings banner = front ++ back →
      depthAfter? 0 front.flatten = some 0) ∧
    Nested queryType.toList ∧ Nested expandedParam.toList ∧
    ∀ binding ∈ bindings, InsertsNested binding →
      ∀ part ∈ sectionParts options binding, Nested (render part).toList := by
  have hbalanced : ∀ part ∈ querierParts options bindings banner, Balanced part :=
    balanced_querierParts
  have htext : querierText bindings options banner =
      render (querierParts options bindings banner).flatten := by
    rw [flatten_querierParts, querierText]
  refine ⟨htext, ?_, ?_, ?_, nested_queryType, nested_expandedParam, ?_⟩
  · rw [htext, ← List.flatMap_id]
    exact Step.render_flatMap hbalanced
  · intro front back hflatten
    exact Step.exists_depth_of_dedent (Balanced.flatten hbalanced 0) hflatten
  · intro front back hparts
    refine Balanced.flatten ?_ 0
    intro part hpart
    exact hbalanced part (hparts ▸ List.mem_append_left back hpart)
  · intro binding _ hbinding
    exact nested_sectionParts hbinding

/-- A query with a list parameter. Its rows embed a table, and a raw row has a literal in a type. -/
def songsBinding : Binding where
  query := { name := "ListSongs", command := .many, text := "" }
  text := "SELECT `id` FROM song WHERE id IN ((/*SLICE:ids*/?))"
  signature :=
    { params := some ⟨"ListSongsParams", true, [⟨"ids", "(number)[]"⟩]⟩
      row := some ⟨"ListSongsRow", true, [⟨"songId", "number"⟩, ⟨"album", "Album"⟩]⟩
      rawRow := some ⟨"RawListSongsRow", false, [⟨"id", "number"⟩, ⟨"album_kind", "\"a[\" | null"⟩]⟩
      returns := "D1Result<ListSongsRow>"
      call := .all "RawListSongsRow"
      mapping := [.scalar "songId" "id", .embed "album" [("kind", "album_kind")]]
      models := ["Album"] }
  bounds := [.first "ids"]
  slices := some ⟨[.first "ids"], [⟨"(/*SLICE:ids*/?)", 1, "ids"⟩]⟩

theorem songsBinding_insertsNested : InsertsNested songsBinding where
  queryName := by decide
  constantName := by decide +kernel
  functionName := by decide +kernel
  declarations := by decide +kernel
  returns := by decide
  row := by decide
  mapping := by decide +kernel
  bounds := by decide
  slices := by decide +kernel

theorem querier_nesting_songs :
    InsertsNested songsBinding ∧
    (∃ front back, (querierParts ⟨"", true⟩ [songsBinding] "").flatten = front ++ .dedent :: back ∧
      ∃ depth, depthAfter? 0 front = some (depth + 1)) ∧
    (∃ front back, querierParts ⟨"", true⟩ [songsBinding] "" = front ++ back ∧
      depthAfter? 0 front.flatten = some 0) ∧
    ∀ part ∈ sectionParts ⟨"", true⟩ songsBinding, Nested (render part).toList := by
  obtain ⟨-, -, hdedent, hmargin, -, -, hnested⟩ := querier_nesting ⟨"", true⟩ [songsBinding] ""
  have hmem : Step.dedent ∈ (querierParts ⟨"", true⟩ [songsBinding] "").flatten := by
    simp [querierParts, sectionParts, functionLines]
  obtain ⟨front, back, hfront⟩ := List.append_of_mem hmem
  have hparts := (List.take_append_drop 3 (querierParts ⟨"", true⟩ [songsBinding] "")).symm
  refine ⟨songsBinding_insertsNested, ⟨front, back, hfront, hdedent front back hfront⟩,
    ⟨_, _, hparts, hmargin _ _ hparts⟩, ?_⟩
  exact hnested songsBinding (List.mem_singleton_self _) songsBinding_insertsNested

end TypedSql.Script
