import TypedSql.Proofs.Json.Numeral

/-!
The tree of what is written. A piece of a written text is read as a tree wherever a value may stand,
inside of any arrays and objects and whatever follows. Values inside an array or an object are read
one by one while its entry on the stack grows.
-/

namespace TypedSql.Json

theorem run?_cons {awaiting next : Awaiting} {stack stack' : List Frame} {token : Token}
    (h : awaiting.step? stack token = some (next, stack')) (rest : List Token) :
    awaiting.run? stack (token :: rest) = next.run? stack' rest := by
  rw [Awaiting.run?, h]

/-- The tokens are the tree, wherever a value may stand. -/
def Parses (tokens : List Token) (tree : Tree) : Prop :=
  ∀ mayClose stack rest,
    (Awaiting.value mayClose).run? stack (tokens ++ rest) = (Awaiting.next tree).run? stack rest

/-- What is written of the value is read as the tree. -/
def Written (value : Value) (tree : Tree) : Prop :=
  ∃ tokens, Lexes value.chars tokens ∧ Parses tokens tree

theorem parse?_text {value : Value} {tree : Tree} (h : Written value tree) :
    parse? (Utf8.encode value.text) = some tree := by
  obtain ⟨tokens, hlex, hparse⟩ := h
  have htokens : lex? (Utf8.encode value.text) = some tokens := by
    have hends : EndsWord [] := fun byte hbyte => by cases hbyte
    have hall := hlex [] [] hends
    rw [List.append_nil, List.append_nil] at hall
    rw [Value.text, Utf8.encode_ofList, lex?, hall, Inside.lex?, List.reverse_reverse]
  have htree := hparse false [] []
  rw [List.append_nil] at htree
  rw [parse?, htokens, Option.bind_some, htree]
  rfl

section Text

theorem chars_string (text : String) : (Value.string text).chars = stringText text := rfl

theorem chars_array (values : List Value) :
    (Value.array values).chars = '[' :: (Value.itemChars values ++ [']']) := rfl

theorem chars_object (members : List (String × Value)) :
    (Value.object members).chars = '\x7b' :: (Value.memberChars members ++ ['\x7d']) := rfl

theorem itemChars_singleton (value : Value) : Value.itemChars [value] = value.chars := rfl

theorem itemChars_cons (value next : Value) (values : List Value) :
    Value.itemChars (value :: next :: values) =
      value.chars ++ (',' :: Value.itemChars (next :: values)) := rfl

theorem memberChars_singleton (name : String) (value : Value) :
    Value.memberChars [(name, value)] = stringText name ++ (':' :: value.chars) := rfl

theorem memberChars_cons (name : String) (value : Value) (next : String × Value)
    (members : List (String × Value)) :
    Value.memberChars ((name, value) :: next :: members) =
      stringText name ++
        (':' :: (value.chars ++ (',' :: Value.memberChars (next :: members)))) := rfl

end Text

section Alone

/-- A token that is a value on its own begins none of the values around it. -/
theorem parses_token {token : Token} {tree : Tree} (h : token.tree? = some tree) :
    Parses [token] tree := by
  intro mayClose stack rest
  cases token
  all_goals first
    | cases h
      rfl
    | cases h

theorem exists_written_string (text : String) :
    ∃ pieces, Written (.string text) (.string pieces) ∧ textOfPieces? pieces = some text := by
  obtain ⟨pieces, hlex, htext⟩ := exists_lexes_stringText text
  exact ⟨pieces, ⟨_, by rwa [chars_string], parses_token rfl⟩, htext⟩

theorem written_bool (value : Bool) : Written (.bool value) (.bool value) := by
  refine ⟨[.bool value], ?_, parses_token rfl⟩
  cases value with
  | false =>
      change Lexes ['f', 'a', 'l', 's', 'e'] [.bool false]
      exact lexes_word (by decide) (by decide +kernel) (by decide +kernel)
  | true =>
      change Lexes ['t', 'r', 'u', 'e'] [.bool true]
      exact lexes_word (by decide) (by decide +kernel) (by decide +kernel)

theorem written_natural (n : Nat) :
    Written (.number (.natural n)) (.number (.ofNat n)) :=
  ⟨[.number (.ofNat n)], lexes_toDigits n, parses_token rfl⟩

end Alone

section Arrays

variable {value : Value} {tree : Tree} {values : List Value} {trees : List Tree}

/-- Items up to the end of their array. The items before them are on the stack, in reverse. -/
theorem exists_tokens_items (h : Written value tree) (hrest : List.Forall₂ Written values trees) :
    ∃ tokens, Lexes (Value.itemChars (value :: values) ++ [']']) tokens ∧
      ∀ mayClose before stack rest,
        (Awaiting.value mayClose).run? (.array before :: stack) (tokens ++ rest) =
          (Awaiting.next (.array (before.reverse ++ tree :: trees))).run? stack rest := by
  induction hrest generalizing value tree with
  | nil =>
      obtain ⟨tokens, hlex, hparse⟩ := h
      refine ⟨tokens ++ [.closeArray], ?_, ?_⟩
      · rw [itemChars_singleton]
        exact hlex.append isPunctuation_closeArray lexes_nil
      · intro mayClose before stack rest
        rw [List.append_assoc, hparse, List.singleton_append, run?_cons rfl, List.reverse_cons]
  | cons hnext _ ih =>
      obtain ⟨tokens, hlex, hparse⟩ := h
      obtain ⟨others, hlexOthers, hparseOthers⟩ := ih hnext
      refine ⟨tokens ++ .comma :: others, ?_, ?_⟩
      · rw [itemChars_cons, List.append_assoc, List.cons_append]
        exact hlex.append isPunctuation_comma hlexOthers
      · intro mayClose before stack rest
        rw [List.append_assoc, hparse, List.cons_append, run?_cons rfl, hparseOthers,
          List.reverse_cons, List.append_assoc, List.singleton_append]

theorem written_array (h : List.Forall₂ Written values trees) :
    Written (.array values) (.array trees) := by
  cases h with
  | nil =>
      refine ⟨[.openArray, .closeArray], ?_, fun _ _ _ => rfl⟩
      rw [chars_array]
      exact (lexes_nil.punctuation isPunctuation_closeArray).punctuation isPunctuation_openArray
  | cons hfirst hrest =>
      obtain ⟨tokens, hlex, hparse⟩ := exists_tokens_items hfirst hrest
      refine ⟨.openArray :: tokens, ?_, ?_⟩
      · rw [chars_array]
        exact hlex.punctuation isPunctuation_openArray
      · intro mayClose stack rest
        rw [List.cons_append, run?_cons rfl]
        exact hparse true [] stack rest

end Arrays

section Objects

def WrittenMember (member : String × Value) (entry : List Piece × Tree) : Prop :=
  Lexes (stringText member.1) [.string entry.1] ∧ textOfPieces? entry.1 = some member.1 ∧
    Written member.2 entry.2

theorem exists_writtenMember (name : String) {value : Value} {tree : Tree}
    (h : Written value tree) : ∃ pieces, WrittenMember (name, value) (pieces, tree) := by
  obtain ⟨pieces, hlex, htext⟩ := exists_lexes_stringText name
  exact ⟨pieces, hlex, htext, h⟩

variable {member : String × Value} {entry : List Piece × Tree} {members : List (String × Value)}
  {entries : List (List Piece × Tree)}

/-- A name may come first in an object or after a comma. -/
theorem step?_name (mayClose : Bool) (before : List (List Piece × Tree)) (pieces : List Piece)
    (stack : List Frame) :
    (Awaiting.member before mayClose).step? stack (.string pieces) =
      some (.colon before pieces, stack) := by
  cases mayClose <;> rfl

/-- Members up to the end of their object. Those before them are kept in reverse. -/
theorem exists_tokens_members (h : WrittenMember member entry)
    (hrest : List.Forall₂ WrittenMember members entries) :
    ∃ tokens, Lexes (Value.memberChars (member :: members) ++ ['\x7d']) tokens ∧
      ∀ mayClose before stack rest,
        (Awaiting.member before mayClose).run? stack (tokens ++ rest) =
          (Awaiting.next (.object (before.reverse ++ entry :: entries))).run? stack rest := by
  obtain ⟨name, value⟩ := member
  obtain ⟨pieces, tree⟩ := entry
  induction hrest generalizing name value pieces tree with
  | nil =>
      obtain ⟨hname, -, tokens, hlex, hparse⟩ := h
      refine ⟨.string pieces :: .colon :: (tokens ++ [.closeObject]), ?_, ?_⟩
      · rw [memberChars_singleton, List.append_assoc, List.cons_append]
        exact hname.append isPunctuation_colon (hlex.append isPunctuation_closeObject lexes_nil)
      · intro mayClose before stack rest
        rw [List.cons_append, List.cons_append, List.append_assoc,
          run?_cons (step?_name mayClose before pieces stack), run?_cons rfl, hparse,
          List.singleton_append, run?_cons rfl, List.reverse_cons]
  | cons hnext _ ih =>
      obtain ⟨hname, -, tokens, hlex, hparse⟩ := h
      obtain ⟨others, hlexOthers, hparseOthers⟩ := ih _ _ _ _ hnext
      refine ⟨.string pieces :: .colon :: (tokens ++ .comma :: others), ?_, ?_⟩
      · rw [memberChars_cons, List.append_assoc, List.cons_append, List.append_assoc,
          List.cons_append]
        exact hname.append isPunctuation_colon (hlex.append isPunctuation_comma hlexOthers)
      · intro mayClose before stack rest
        rw [List.cons_append, List.cons_append, List.append_assoc,
          run?_cons (step?_name mayClose before pieces stack), run?_cons rfl, hparse,
          List.cons_append, run?_cons rfl, hparseOthers, List.reverse_cons, List.append_assoc,
          List.singleton_append]

theorem written_object (h : List.Forall₂ WrittenMember members entries) :
    Written (.object members) (.object entries) := by
  cases h with
  | nil =>
      refine ⟨[.openObject, .closeObject], ?_, fun _ _ _ => rfl⟩
      rw [chars_object]
      exact (lexes_nil.punctuation isPunctuation_closeObject).punctuation isPunctuation_openObject
  | cons hfirst hrest =>
      obtain ⟨tokens, hlex, hparse⟩ := exists_tokens_members hfirst hrest
      refine ⟨.openObject :: tokens, ?_, ?_⟩
      · rw [chars_object]
        exact hlex.punctuation isPunctuation_openObject
      · intro mayClose stack rest
        rw [List.cons_append, run?_cons rfl]
        exact hparse true [] stack rest

end Objects

end TypedSql.Json
