import Mathlib.Data.List.Infix
import TypedSql.Proofs.Script.Layout
import TypedSql.Proofs.Text.Occurrence
import TypedSql.Script.LiteralReader

/-!
Written literals, read back. A template denotes the text that it was made from, but for the line
ends in it; a string in quotes denotes its text, and is a literal at all only if no line ends in it.
So a marker is found in the text of a query at run time where it stands in the text of the query.
-/

namespace TypedSql.Script

open Text (positions)

section Template

variable {c : Char} {text rest : List Char}

/-- Whether a character gets a backslash in a template, where `rest` follows it. -/
def Escaped (c : Char) (rest : List Char) : Prop :=
  c = '\\' ∨ c = '\x60' ∨ c = '$' ∧ rest.head? = some '\x7b'

theorem templateChars_escaped (h : Escaped c rest) :
    templateChars (c :: rest) = '\\' :: c :: templateChars rest := by
  rcases h with rfl | rfl | ⟨rfl, hbrace⟩
  · simp [templateChars]
  · simp [templateChars]
  · obtain ⟨tail, rfl⟩ := List.head?_eq_some_iff.mp hbrace
    simp [templateChars]

theorem templateChars_plain (h : ¬ Escaped c rest) :
    templateChars (c :: rest) = c :: templateChars rest := by
  rw [templateChars]
  · exact if_neg fun hspecial => h (hspecial.imp_right .inl)
  · rintro tail rfl rfl
    exact h (.inr (.inr ⟨rfl, rfl⟩))

/-- A text begins with a character if its escaped form does, unless this is a backslash. -/
theorem head?_templateChars (hc : c ≠ '\\') (h : (templateChars text).head? = some c) :
    text.head? = some c := by
  cases text with
  | nil => simp [templateChars] at h
  | cons d rest =>
      by_cases hescaped : Escaped d rest
      · rw [templateChars_escaped hescaped] at h
        exact absurd (Option.some.inj h).symm hc
      · rwa [templateChars_plain hescaped] at h

theorem readTemplateBody?_escaped (h : Escaped c rest) (tail : List Char) :
    readTemplateBody? ('\\' :: c :: tail) =
      (readTemplateBody? tail).map fun (value, after) => (c :: value, after) := by
  have hescape : readEscape? (c :: tail) = some ([c], tail) := by
    rcases h with rfl | rfl | ⟨rfl, -⟩
    all_goals simp [readEscape?, isLineEnd, controlEscape]
  rw [readTemplateBody?]
  · simp only [Char.reduceEq, if_false, if_true]
    split
    · next hnone => simp [hescape] at hnone
    · next value after hsome =>
        obtain ⟨rfl, rfl⟩ := Prod.mk.inj (Option.some.inj (hescape.symm.trans hsome))
        rfl
  all_goals simp

theorem readTemplateBody?_plain (h : ¬ Escaped c rest) (hcr : c = '\r' → rest.head? ≠ some '\n') :
    readTemplateBody? (c :: rest) =
      (readTemplateBody? rest).map fun (value, after) =>
        ((if c = '\r' then '\n' else c) :: value, after) := by
  rw [readTemplateBody?]
  · rw [if_neg fun hquote => h (.inr (.inl hquote)), if_neg fun hslash => h (.inl hslash)]
  · rintro tail rfl rfl
    exact h (.inr (.inr ⟨rfl, rfl⟩))
  · rintro tail rfl rfl
    exact hcr rfl rfl

theorem normalizeLineEnds_cons (h : c = '\r' → rest.head? ≠ some '\n') :
    normalizeLineEnds (c :: rest) = (if c = '\r' then '\n' else c) :: normalizeLineEnds rest := by
  rw [normalizeLineEnds]
  rintro tail rfl rfl
  exact h rfl rfl

def slashBefore (special : Char) (text : List Char) : List Char :=
  text.flatMap fun c => if c = special then ['\\', c] else [c]

/-- A text with a backslash before everything that looks like the beginning of a substitution. -/
def slashSubstitutions : List Char → List Char
  | [] => []
  | '$' :: '\x7b' :: rest => '\\' :: '$' :: '\x7b' :: slashSubstitutions rest
  | c :: rest => c :: slashSubstitutions rest

/-- One pass puts the same backslashes as three replacements, one after the other. -/
theorem templateChars_eq (text : List Char) :
    templateChars text = slashSubstitutions (slashBefore '\x60' (slashBefore '\\' text)) := by
  have hcons (c : Char) (rest : List Char) :
      slashBefore '\x60' (slashBefore '\\' (c :: rest)) =
        (if c = '\\' ∨ c = '\x60' then ['\\', c] else [c]) ++
          slashBefore '\x60' (slashBefore '\\' rest) := by
    by_cases hslash : c = '\\'
    · simp [slashBefore, hslash]
    · by_cases hquote : c = '\x60'
      · simp [slashBefore, hquote]
      · simp [slashBefore, hslash, hquote]
  induction text with
  | nil => rfl
  | cons c rest ih =>
      rw [hcons]
      by_cases hescaped : Escaped c rest
      · rw [templateChars_escaped hescaped, ih]
        rcases hescaped with rfl | rfl | ⟨rfl, hbrace⟩
        · simp [slashSubstitutions]
        · simp [slashSubstitutions]
        · obtain ⟨tail, rfl⟩ := List.head?_eq_some_iff.mp hbrace
          simp [hcons, slashSubstitutions]
      · have hspecial : ¬ (c = '\\' ∨ c = '\x60') := fun h => hescaped (h.imp_right .inl)
        rw [templateChars_plain hescaped, ih, if_neg hspecial, List.cons_append, List.nil_append,
          slashSubstitutions]
        rintro tail rfl hbrace
        cases rest with
        | nil => cases hbrace
        | cons d rest =>
            rw [hcons] at hbrace
            split at hbrace
            · cases hbrace
            · obtain rfl : d = '\x7b' := (List.cons.inj hbrace).1
              exact hescaped (.inr (.inr ⟨rfl, rfl⟩))

/-- A template ends where it was written to end, and its value is the text with other line ends. -/
theorem readTemplateBody?_templateChars (text after : List Char) :
    readTemplateBody? (templateChars text ++ '\x60' :: after) =
      some (normalizeLineEnds text, after) := by
  have hhead {c : Char} {rest : List Char} (hslash : c ≠ '\\') (hquote : c ≠ '\x60')
      (h : rest.head? ≠ some c) : (templateChars rest ++ '\x60' :: after).head? ≠ some c := by
    intro hc
    rw [List.head?_append] at hc
    cases hrest : (templateChars rest).head? with
    | none => simp [hrest, Ne.symm hquote] at hc
    | some d =>
        obtain rfl : d = c := by simpa [hrest] using hc
        exact h (head?_templateChars hslash hrest)
  fun_induction normalizeLineEnds text with
  | case1 => simp [templateChars, readTemplateBody?]
  | case2 rest ih =>
      -- A line end of two characters.
      have hescaped (c : Char) (tail : List Char) (h : c = '\r' ∨ c = '\n') : ¬ Escaped c tail := by
        rcases h with rfl | rfl <;> simp [Escaped]
      rw [templateChars_plain (hescaped _ _ (.inl rfl)),
        templateChars_plain (hescaped _ _ (.inr rfl)),
        List.cons_append, List.cons_append, readTemplateBody?, ih]
      rfl
  | case3 c rest hcrlf ih =>
      by_cases hescaped : Escaped c rest
      · have hcr : c ≠ '\r' := by
          rintro rfl
          simp [Escaped] at hescaped
        rw [templateChars_escaped hescaped, List.cons_append, List.cons_append,
          readTemplateBody?_escaped hescaped, ih, if_neg hcr]
        rfl
      · rw [templateChars_plain hescaped, List.cons_append, readTemplateBody?_plain, ih]
        · rfl
        · rintro (hslash | hquote | ⟨rfl, hbrace⟩)
          · exact hescaped (.inl hslash)
          · exact hescaped (.inr (.inl hquote))
          · exact hhead (by decide) (by decide) (fun h => hescaped (.inr (.inr ⟨rfl, h⟩))) hbrace
        -- A carriage return alone has no line feed behind it in the template either.
        · rintro rfl
          refine hhead (by decide) (by decide) ?_
          intro h
          obtain ⟨tail, rfl⟩ := List.head?_eq_some_iff.mp h
          exact hcrlf tail rfl rfl

/-- A piece in which nothing needs a backslash stays as it is, unless it ends in a dollar sign that
the rest makes the beginning of a substitution. -/
theorem templateChars_append {first second : List Char} (hquote : '\x60' ∉ first)
    (hslash : '\\' ∉ first) (hdollar : ¬ ['$', '\x7b'] <:+: first)
    (hend : first.getLast? = some '$' → second.head? ≠ some '\x7b') :
    templateChars (first ++ second) = first ++ templateChars second := by
  induction first with
  | nil => rfl
  | cons c rest ih =>
      rw [List.mem_cons, not_or] at hquote hslash
      rw [List.cons_append, templateChars_plain, ih hquote.2 hslash.2]
      · rfl
      · exact fun h => hdollar (h.trans (List.suffix_cons c rest).isInfix)
      · intro h
        apply hend
        rw [List.getLast?_cons, h]
        rfl
      · rintro (rfl | rfl | ⟨rfl, hbrace⟩)
        · exact hslash.1 rfl
        · exact hquote.1 rfl
        · cases rest with
          | nil => exact hend rfl hbrace
          | cons d rest =>
              obtain rfl : d = '\x7b' := Option.some.inj hbrace
              exact hdollar ⟨[], rest, rfl⟩

theorem mem_normalizeLineEnds_ne (text : List Char) : '\r' ∉ normalizeLineEnds text := by
  fun_induction normalizeLineEnds text with
  | case1 => simp
  | case2 rest ih => simpa using ih
  | case3 c rest _ ih =>
      rw [List.mem_cons, not_or]
      refine ⟨?_, ih⟩
      split
      · decide
      · next h => exact Ne.symm h

theorem normalizeLineEnds_eq_self_iff : normalizeLineEnds text = text ↔ '\r' ∉ text := by
  constructor
  · intro h
    rw [← h]
    exact mem_normalizeLineEnds_ne text
  · intro h
    induction text with
    | nil => rfl
    | cons c rest ih =>
        rw [List.mem_cons, not_or] at h
        have hc : c ≠ '\r' := Ne.symm h.1
        rw [normalizeLineEnds_cons fun hcr => absurd hcr hc, if_neg hc, ih h.2]

end Template

section Strings

variable {c : Char} {text : List Char}

theorem readStringBody?_escaped (h : c = '\\' ∨ c = '"') (tail : List Char) :
    readStringBody? ('\\' :: c :: tail) =
      (readStringBody? tail).map fun (value, after) => (c :: value, after) := by
  have hescape : readEscape? (c :: tail) = some ([c], tail) := by
    rcases h with rfl | rfl
    all_goals simp [readEscape?, isLineEnd, controlEscape]
  rw [readStringBody?]
  simp only [Char.reduceEq, or_self, if_false, if_true]
  split
  · next hnone => simp [hescape] at hnone
  · next value after hsome =>
      obtain ⟨rfl, rfl⟩ := Prod.mk.inj (Option.some.inj (hescape.symm.trans hsome))
      rfl

theorem readStringBody?_plain (h : ¬ (c = '\\' ∨ c = '"')) (hline : ¬ (c = '\n' ∨ c = '\r'))
    (tail : List Char) :
    readStringBody? (c :: tail) =
      (readStringBody? tail).map fun (value, after) => (c :: value, after) := by
  rw [not_or] at h
  rw [readStringBody?, if_neg h.2, if_neg hline, if_neg h.1]

/-- A string is broken by the first line end in it. -/
theorem readStringBody?_line (h : c = '\n' ∨ c = '\r') (tail : List Char) :
    readStringBody? (c :: tail) = none := by
  have hquote : c ≠ '"' := by
    rintro rfl
    simp at h
  rw [readStringBody?, if_neg hquote, if_pos h]

/-- A string ends where it was written to end, and its value is the text, unless a line ends in
it. -/
theorem readStringBody?_stringChars (text after : List Char) :
    readStringBody? (text.flatMap stringChar ++ '"' :: after) =
      if '\n' ∈ text ∨ '\r' ∈ text then none else some (text, after) := by
  induction text with
  | nil => simp [readStringBody?]
  | cons c rest ih =>
      rw [List.flatMap_cons, List.append_assoc, stringChar]
      have hmem : ('\n' ∈ c :: rest ∨ '\r' ∈ c :: rest) ↔
          (c = '\n' ∨ c = '\r') ∨ '\n' ∈ rest ∨ '\r' ∈ rest := by
        simp only [List.mem_cons]
        grind
      simp only [hmem]
      split
      · next hescaped =>
          have hline : ¬ (c = '\n' ∨ c = '\r') := by
            rcases hescaped with rfl | rfl <;> simp
          rw [List.cons_append, List.cons_append, List.nil_append, readStringBody?_escaped hescaped,
            ih, apply_ite (Option.map _)]
          simp [hline]
      · next hplain =>
          rw [List.cons_append, List.nil_append]
          by_cases hline : c = '\n' ∨ c = '\r'
          · rw [readStringBody?_line hline, if_pos (.inl hline)]
          · rw [readStringBody?_plain hplain hline, ih, apply_ite (Option.map _)]
            simp [hline]

theorem readString?_stringLiteral (text : String) (after : List Char) :
    readString? ((stringLiteral text).toList ++ after) =
      if '\n' ∈ text.toList ∨ '\r' ∈ text.toList then none else some (text.toList, after) := by
  simp [stringLiteral, readString?, readStringBody?_stringChars]

end Strings

def heading (query : Query) : String :=
  "-- name: " ++ query.name ++ " " ++ query.command.keyword ++ "\n"

/-- The template in the constant of a query: its text with backslashes before backslashes, then
before backquotes, then before what looks like a substitution. -/
def queryTemplate (binding : Binding) : String :=
  "\x60" ++ heading binding.query ++
    String.ofList (slashSubstitutions
      (slashBefore '\x60' (slashBefore '\\' binding.text.toList))) ++ "\x60"

theorem toList_heading (query : Query) :
    (heading query).toList = "-- name: ".toList ++
      (query.name.toList ++ (" " ++ query.command.keyword ++ "\n").toList) := by
  simp [heading]

section Heading

variable {query : Query}

theorem templateChars_heading (hquote : '\x60' ∉ query.name.toList)
    (hslash : '\\' ∉ query.name.toList) (hdollar : ¬ ['$', '\x7b'] <:+: query.name.toList)
    (text : List Char) :
    templateChars ((heading query).toList ++ text) =
      (heading query).toList ++ templateChars text := by
  have hend : templateChars ((" " ++ query.command.keyword ++ "\n").toList ++ text) =
      (" " ++ query.command.keyword ++ "\n").toList ++ templateChars text := by
    apply templateChars_append
    case hend => cases query.command <;> exact fun h => absurd h (by decide +kernel)
    all_goals cases query.command <;> decide +kernel
  rw [toList_heading, List.append_assoc, List.append_assoc, templateChars_append,
    templateChars_append hquote hslash hdollar, hend, List.append_assoc, List.append_assoc]
  case hend => exact fun h => absurd h (by decide +kernel)
  · exact fun _ => by simp
  all_goals decide +kernel

theorem normalizeLineEnds_append {first : List Char} (h : '\r' ∉ first) (second : List Char) :
    normalizeLineEnds (first ++ second) = first ++ normalizeLineEnds second := by
  induction first with
  | nil => rfl
  | cons c rest ih =>
      rw [List.mem_cons, not_or] at h
      have hc : c ≠ '\r' := Ne.symm h.1
      rw [List.cons_append, normalizeLineEnds_cons fun hcr => absurd hcr hc, if_neg hc, ih h.2]
      rfl

theorem not_mem_heading (h : '\r' ∉ query.name.toList) : '\r' ∉ (heading query).toList := by
  have hend : '\r' ∉ (" " ++ query.command.keyword ++ "\n").toList := by
    cases query.command <;> decide +kernel
  rw [toList_heading, List.mem_append, List.mem_append]
  rintro (hfront | hname | hkeyword)
  · exact absurd hfront (by decide +kernel)
  · exact h hname
  · exact hend hkeyword

end Heading

theorem mem_marker {c : Char} {column : String} (hc : c ∈ ['\n', '\r']) :
    c ∈ (Slice.marker column).toList ↔ c ∈ column.toList := by
  rw [Slice.marker]
  rcases List.mem_pair.mp hc with rfl | rfl <;> simp

/-- The constant of a query is one template, which ends at its last backquote whatever follows, and
denotes the heading and the text. A string literal is complete iff no line ends in it, and denotes
its text. Where no carriage return is lost, a marker is found in the value of the constant at the
places at which it stands in the heading and the text. -/
theorem literals_denote (binding : Binding) (hquote : '\x60' ∉ binding.query.name.toList)
    (hslash : '\\' ∉ binding.query.name.toList) (hcr : '\r' ∉ binding.query.name.toList)
    (hdollar : ¬ ['$', '\x7b'] <:+: binding.query.name.toList) :
    Step.render (constant binding) =
      "const " ++ binding.constantName ++ " = " ++ queryTemplate binding ++ ";\n\n" ∧
    (∀ after, readTemplate? ((queryTemplate binding).toList ++ after) =
      some ((heading binding.query).toList ++ normalizeLineEnds binding.text.toList, after)) ∧
    (normalizeLineEnds binding.text.toList = binding.text.toList ↔ '\r' ∉ binding.text.toList) ∧
    (∀ text : String, (∃ value, readString? (stringLiteral text).toList = some (value, [])) ↔
      '\n' ∉ text.toList ∧ '\r' ∉ text.toList) ∧
    (∀ (text : String) (after value rest : List Char),
      readString? ((stringLiteral text).toList ++ after) = some (value, rest) →
        value = text.toList ∧ rest = after) ∧
    (∀ column : String, '\r' ∉ binding.text.toList → '\n' ∉ column.toList → '\r' ∉ column.toList →
      ∃ query marker, readTemplate? (queryTemplate binding).toList = some (query, []) ∧
        readString? (stringLiteral (Slice.marker column)).toList = some (marker, []) ∧
        positions marker query = positions (Slice.marker column).toList
          ((heading binding.query).toList ++ binding.text.toList)) := by
  have htemplate (after : List Char) : readTemplate? ((queryTemplate binding).toList ++ after) =
      some ((heading binding.query).toList ++ normalizeLineEnds binding.text.toList, after) := by
    have hbody := readTemplateBody?_templateChars
      ((heading binding.query).toList ++ binding.text.toList) after
    rw [templateChars_heading hquote hslash hdollar, templateChars_eq,
      normalizeLineEnds_append (not_mem_heading hcr)] at hbody
    simpa [queryTemplate, readTemplate?] using hbody
  have hstring (text : String) := readString?_stringLiteral text []
  simp only [List.append_nil] at hstring
  refine ⟨?_, htemplate, normalizeLineEnds_eq_self_iff, ?_, ?_, ?_⟩
  · rw [constant, Step.render_verbatim, Step.blank, Step.render_verbatim, templateBody,
      templateChars_eq, ← String.toList_inj]
    simp [queryTemplate, heading]
  · intro text
    rw [hstring]
    split
    · next hline => simpa [← not_or] using hline
    · next hline => simpa [← not_or] using hline
  · intro text after value rest h
    rw [readString?_stringLiteral] at h
    split at h
    · cases h
    · obtain ⟨rfl, rfl⟩ := Prod.mk.inj (Option.some.inj h)
      exact ⟨rfl, rfl⟩
  · intro column htext hline hreturn
    refine ⟨_, (Slice.marker column).toList, by simpa using htemplate [], ?_, ?_⟩
    · rw [hstring, if_neg]
      rw [mem_marker (by simp), mem_marker (by simp), not_or]
      exact ⟨hline, hreturn⟩
    · rw [normalizeLineEnds_eq_self_iff.mpr htext]

def songsPriced : Binding where
  query := { name := "Songs$", command := .many, text := "" }
  text := "SELECT \x60$$\x7b\\\x60\\$\x7b\r\n$\r\x7b\\"
  signature := ⟨none, none, none, "", .run, [], []⟩
  bounds := []
  slices := none

theorem literals_denote_songsPriced :
    readTemplate? (queryTemplate songsPriced).toList =
      some ("-- name: Songs$ :many\nSELECT \x60$$\x7b\\\x60\\$\x7b\n$\n\x7b\\".toList, []) := by
  obtain ⟨-, htemplate, -⟩ := literals_denote songsPriced (by decide +kernel) (by decide +kernel)
    (by decide +kernel) (by decide +kernel)
  have hvalue := htemplate []
  rw [List.append_nil] at hvalue
  rw [hvalue]
  decide +kernel

end TypedSql.Script
