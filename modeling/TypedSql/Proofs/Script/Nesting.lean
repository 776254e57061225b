import TypedSql.Script.Nesting

/-!
Reading a script with a stack decides whether it is nested: a script is nested just if reading it
leaves no bracket and no literal open. Nested text is read without a change to what is open, so a
text is read piece by piece.
-/

namespace TypedSql.Script

section Grammar

variable {c quote : Char} {text first second : List Char}

theorem Nested.append (hfirst : Nested first) (hsecond : Nested second) :
    Nested (first ++ second) := by
  induction hfirst with
  | nil => exact hsecond
  | plain hplain _ ih => exact .plain hplain ih
  | brackets hpartner hinside _ _ ih =>
      rw [List.cons_append, List.append_assoc]
      exact .brackets hpartner hinside ih
  | literal hquote hbody _ ih =>
      rw [List.cons_append, List.append_assoc]
      exact .literal hquote hbody ih

theorem Nested.of_plain (h : ∀ c ∈ text, isPlain c = true) : Nested text := by
  induction text with
  | nil => exact .nil
  | cons c text ih =>
      rw [List.forall_mem_cons] at h
      exact .plain h.1 (ih h.2)

theorem isQuote_eq_false_of_partner? {closing : Char} (h : partner? c = some closing) :
    isQuote c = false := by
  unfold partner? at h
  split at h
  · next hc => rw [hc]; rfl
  split at h
  · next hc => rw [hc]; rfl
  split at h
  · next hc => rw [hc]; rfl
  · cases h

theorem partner?_of_closing {opening : Char} (h : partner? opening = some c) :
    partner? c = none ∧ isClosing c = true ∧ isQuote c = false := by
  unfold partner? at h
  split at h
  · obtain rfl := Option.some.inj h
    decide
  split at h
  · obtain rfl := Option.some.inj h
    decide
  split at h
  · obtain rfl := Option.some.inj h
    decide
  · cases h

theorem exists_partner?_of_isClosing (h : isClosing c = true) :
    ∃ opening, partner? opening = some c := by
  simp only [isClosing, Bool.or_eq_true, beq_iff_eq] at h
  rcases h with (rfl | rfl) | rfl
  · exact ⟨'(', rfl⟩
  · exact ⟨'[', rfl⟩
  · exact ⟨'\x7b', rfl⟩

theorem ne_backslash_of_isQuote (h : isQuote quote = true) : quote ≠ '\\' := by
  rintro rfl
  cases h

end Grammar

namespace Reading

variable {reading reading' reading'' : Reading} {closers : List Char} {c quote : Char}
  {first second text : List Char}

theorem after?_nil (reading : Reading) : reading.after? [] = some reading := rfl

theorem after?_cons (reading : Reading) (c : Char) (text : List Char) :
    reading.after? (c :: text) = (reading.step c).bind (·.after? text) := rfl

theorem after?_append (reading : Reading) (first second : List Char) :
    reading.after? (first ++ second) = (reading.after? first).bind (·.after? second) :=
  List.foldlM_append

theorem after?_trans (hfirst : reading.after? first = some reading')
    (hsecond : reading'.after? second = some reading'') :
    reading.after? (first ++ second) = some reading'' := by
  rw [after?_append, hfirst]
  exact hsecond

theorem stepCode_plain (h : isPlain c = true) : stepCode closers c = some ⟨closers, .code⟩ := by
  simp only [isPlain, Bool.and_eq_true, Option.isNone_iff_eq_none, Bool.not_eq_true'] at h
  obtain ⟨⟨hpartner, hclosing⟩, hquote⟩ := h
  rw [stepCode, hquote, hpartner, hclosing]
  rfl

theorem stepCode_opening {closing : Char} (h : partner? c = some closing) :
    stepCode closers c = some ⟨closing :: closers, .code⟩ := by
  rw [stepCode, isQuote_eq_false_of_partner? h, h]
  rfl

theorem stepCode_closing {opening : Char} (h : partner? opening = some c) :
    stepCode (c :: closers) c = some ⟨closers, .code⟩ := by
  obtain ⟨hpartner, hclosing, hquote⟩ := partner?_of_closing h
  rw [stepCode, hquote, hpartner, hclosing]
  exact if_pos rfl

theorem stepCode_quote (h : isQuote c = true) :
    stepCode closers c = some ⟨closers, .literal c⟩ := by
  rw [stepCode, h]
  rfl

/-- All that a character of script can be. -/
theorem stepCode_cases (h : stepCode closers c = some reading) :
    (isQuote c = true ∧ reading = ⟨closers, .literal c⟩) ∨
    (∃ closer, partner? c = some closer ∧ reading = ⟨closer :: closers, .code⟩) ∨
    (∃ opening outer, partner? opening = some c ∧ closers = c :: outer ∧
      reading = ⟨outer, .code⟩) ∨
    (isPlain c = true ∧ reading = ⟨closers, .code⟩) := by
  rw [stepCode] at h
  by_cases hquote : isQuote c = true
  · rw [if_pos hquote] at h
    exact Or.inl ⟨hquote, (Option.some.inj h).symm⟩
  right
  rw [if_neg hquote] at h
  cases hpartner : partner? c with
  | some closer =>
      rw [hpartner] at h
      exact Or.inl ⟨closer, rfl, (Option.some.inj h).symm⟩
  | none =>
      right
      rw [hpartner] at h
      dsimp only at h
      by_cases hclosing : isClosing c = true
      · rw [if_pos hclosing] at h
        obtain ⟨opening, hopening⟩ := exists_partner?_of_isClosing hclosing
        cases closers with
        | nil => cases h
        | cons closer outer =>
            rw [close] at h
            split at h
            · next hcloser =>
                subst hcloser
                exact Or.inl ⟨opening, outer, hopening, rfl, (Option.some.inj h).symm⟩
            · cases h
      · rw [if_neg hclosing] at h
        refine Or.inr ⟨?_, (Option.some.inj h).symm⟩
        rw [Bool.not_eq_true] at hquote hclosing
        rw [isPlain, hpartner, hquote, hclosing]
        rfl

/-- A literal is read to its end. -/
theorem after?_literalBody {body : List Char} (h : LiteralBody quote body) :
    (Reading.mk closers (.literal quote)).after? body = some ⟨closers, .literal quote⟩ := by
  induction h with
  | nil => rfl
  | plain hslash hquote _ ih =>
      rw [after?_cons, step]
      simp only [hslash, hquote, if_false, Option.bind_some]
      exact ih
  | escaped _ ih => exact ih

/-- Nested text changes nothing, whatever is open around it. -/
theorem after?_nested (h : Nested text) :
    (Reading.mk closers .code).after? text = some ⟨closers, .code⟩ := by
  induction h generalizing closers with
  | nil => rfl
  | plain hplain _ ih =>
      rw [after?_cons, step, stepCode_plain hplain]
      exact ih
  | brackets hpartner _ _ ihinside ihrest =>
      rw [after?_cons, step, stepCode_opening hpartner, Option.bind_some]
      refine after?_trans ihinside ?_
      rw [after?_cons, step, stepCode_closing hpartner]
      exact ihrest
  | literal hquote hbody _ ih =>
      rw [after?_cons, step, stepCode_quote hquote, Option.bind_some]
      refine after?_trans (after?_literalBody hbody) ?_
      rw [after?_cons, step]
      simp only [ne_backslash_of_isQuote hquote, if_false, if_true, Option.bind_some]
      exact ih

end Reading

section Decision

variable {closers text : List Char} {place : Place} {c : Char}

/-- Text that closes what is open around it, the innermost first, with nested text between. -/
def Closes : List Char → List Char → Prop
  | [], text => Nested text
  | closer :: outer, text =>
    ∃ inside rest, text = inside ++ closer :: rest ∧ Nested inside ∧ Closes outer rest

def Completes (closers : List Char) : Place → List Char → Prop
  | .code, text => Closes closers text
  | .literal quote, text =>
    ∃ body rest, text = body ++ quote :: rest ∧ LiteralBody quote body ∧ Closes closers rest
  | .escape quote, text =>
    ∃ c body rest, text = c :: (body ++ quote :: rest) ∧ LiteralBody quote body ∧
      Closes closers rest

theorem Closes.prepend {first : List Char} (hfirst : Nested first) (h : Closes closers text) :
    Closes closers (first ++ text) := by
  cases closers with
  | nil => exact hfirst.append h
  | cons closer outer =>
      obtain ⟨inside, rest, rfl, hinside, hrest⟩ := h
      exact ⟨first ++ inside, rest, (List.append_assoc _ _ _).symm, hfirst.append hinside, hrest⟩

theorem Completes.stepCode {reading : Reading} (hstep : Reading.stepCode closers c = some reading)
    (h : Completes reading.closers reading.place text) : Closes closers (c :: text) := by
  rcases Reading.stepCode_cases hstep with ⟨hquote, rfl⟩ | ⟨closer, hpartner, rfl⟩ |
    ⟨opening, outer, -, rfl, rfl⟩ | ⟨hplain, rfl⟩
  · obtain ⟨body, rest, rfl, hbody, hrest⟩ := h
    have hliteral : Nested (c :: (body ++ [c])) := .literal hquote hbody .nil
    simpa using hrest.prepend hliteral
  · obtain ⟨inside, rest, rfl, hinside, hrest⟩ := h
    have hbrackets : Nested (c :: (inside ++ [closer])) := .brackets hpartner hinside .nil
    simpa using hrest.prepend hbrackets
  · exact ⟨[], text, rfl, .nil, h⟩
  · exact Closes.prepend (.plain hplain .nil) h

theorem Completes.step {reading reading' : Reading} (hstep : reading.step c = some reading')
    (h : Completes reading'.closers reading'.place text) :
    Completes reading.closers reading.place (c :: text) := by
  obtain ⟨closers, place⟩ := reading
  cases place with
  | code => exact Completes.stepCode hstep h
  | literal quote =>
      obtain rfl := Option.some.inj hstep
      dsimp only at h
      by_cases hslash : c = '\\'
      · rw [if_pos hslash] at h
        obtain ⟨d, body, rest, rfl, hbody, hrest⟩ := h
        rw [hslash]
        exact ⟨'\\' :: d :: body, rest, rfl, .escaped hbody, hrest⟩
      rw [if_neg hslash] at h
      by_cases hquote : c = quote
      · rw [if_pos hquote] at h
        rw [hquote]
        exact ⟨[], text, rfl, .nil, h⟩
      · rw [if_neg hquote] at h
        obtain ⟨body, rest, rfl, hbody, hrest⟩ := h
        exact ⟨c :: body, rest, rfl, .plain hslash hquote hbody, hrest⟩
  | escape quote =>
      obtain rfl := Option.some.inj hstep
      obtain ⟨body, rest, rfl, hbody, hrest⟩ := h
      exact ⟨c, body, rest, rfl, hbody, hrest⟩

theorem completes_of_after? {reading : Reading} (h : reading.after? text = some ⟨[], .code⟩) :
    Completes reading.closers reading.place text := by
  induction text generalizing reading with
  | nil =>
      rw [Reading.after?_nil] at h
      rw [Option.some.inj h]
      exact Nested.nil
  | cons c text ih =>
      rw [Reading.after?_cons] at h
      obtain ⟨next, hstep, hrest⟩ := Option.bind_eq_some_iff.mp h
      exact Completes.step hstep (ih hrest)

/-- A script is nested just if reading it leaves nothing open. -/
theorem nested_iff : Nested text ↔ (Reading.mk [] .code).after? text = some ⟨[], .code⟩ :=
  ⟨Reading.after?_nested, completes_of_after?⟩

instance (text : List Char) : Decidable (Nested text) :=
  decidable_of_iff _ nested_iff.symm

end Decision

end TypedSql.Script
