import Mathlib.Data.List.TakeWhile
import Mathlib.Data.Nat.Digits.Lemmas
import TypedSql.Options.Literal
import TypedSql.Proofs.Traversal

/-!
The grammar of option literals. A quoted body is cut into items in one way only, since the reader
has no choice: an item that stands at the beginning of a text is the one that is read there. So a
literal is accepted exactly if its body is made of items, and denotes what they denote.
-/

namespace TypedSql.Text

/-- A text splits where a character stands for the first time. -/
theorem split_at_first {c : Char} {front : List Char} (h : c ∉ front) (rest : List Char) :
    (front ++ c :: rest).takeWhile (· != c) = front ∧
      (front ++ c :: rest).dropWhile (· != c) = c :: rest := by
  have hne : ∀ d ∈ front, (d != c) = true := fun d hd => bne_iff_ne.mpr fun hsame => h (hsame ▸ hd)
  rw [List.takeWhile_append_of_pos hne, List.dropWhile_append_of_pos hne]
  simp

end TypedSql.Text

namespace TypedSql.Text.Hexadecimal

variable {c : Char} {n value : Nat} {digits : List Char}

/-- The character is the digit for the number, in lower or in upper case. -/
def IsDigit (c : Char) (n : Nat) : Prop :=
  "0123456789abcdef".toList[n]? = some c ∨ "0123456789ABCDEF".toList[n]? = some c

instance : Decidable (IsDigit c n) :=
  inferInstanceAs (Decidable (_ ∨ _))

theorem lt_of_digitValue? (h : digitValue? c = some n) : c.toNat < 128 := by
  simp only [digitValue?, Char.le_def, UInt32.le_iff_toNat_le] at h
  have hupper {bound : Char} (hle : c.val.toNat ≤ bound.val.toNat) (hbound : bound.toNat < 128) :
      c.toNat < 128 :=
    Nat.lt_of_le_of_lt hle hbound
  split_ifs at h with hdecimal hlower hcapital
  · exact hupper hdecimal.2 (by decide)
  · exact hupper hlower.2 (by decide)
  · exact hupper hcapital.2 (by decide)

theorem IsDigit.lt (h : IsDigit c n) : n < 16 := by
  obtain h | h := h
  · exact (List.getElem?_eq_some_iff.mp h).1
  · exact (List.getElem?_eq_some_iff.mp h).1

theorem digitValue?_eq_some_iff : digitValue? c = some n ↔ IsDigit c n := by
  have hread : ∀ code < 128, ∀ n ∈ digitValue? (Char.ofNat code), IsDigit (Char.ofNat code) n := by
    decide +kernel
  have hwritten : ∀ n < 16, ∀ digits ∈ ["0123456789abcdef", "0123456789ABCDEF"],
      (digits.toList[n]?.all fun c => digitValue? c == some n) = true := by
    decide +kernel
  constructor
  · intro h
    have hdigit := hread c.toNat (lt_of_digitValue? h)
    rw [Char.ofNat_toNat] at hdigit
    exact hdigit n h
  · intro h
    have hlower := hwritten n h.lt _ List.mem_cons_self
    have hcapital := hwritten n h.lt _ (List.mem_cons_of_mem _ List.mem_cons_self)
    obtain h | h := h
    · rw [h] at hlower
      exact eq_of_beq hlower
    · rw [h] at hcapital
      exact eq_of_beq hcapital

/-- Digits that are read after others add their number to that of the others, shifted. -/
theorem valueFrom?_eq_some_iff :
    valueFrom? value digits = some n ↔ ∃ values, List.Forall₂ IsDigit digits values ∧
      value * 16 ^ digits.length + Nat.ofDigits 16 values.reverse = n := by
  induction digits generalizing value with
  | nil => simp [valueFrom?]
  | cons c digits ih =>
      have hshift (digit : Nat) {values : List Nat} (h : List.Forall₂ IsDigit digits values) :
          (value * 16 + digit) * 16 ^ digits.length + Nat.ofDigits 16 values.reverse =
            value * 16 ^ (digits.length + 1) + Nat.ofDigits 16 (digit :: values).reverse := by
        rw [List.reverse_cons, Nat.ofDigits_append, Nat.ofDigits_singleton, List.length_reverse,
          ← h.length_eq]
        ring
      rw [valueFrom?]
      cases hdigit : digitValue? c with
      | none =>
          refine ⟨nofun, fun ⟨values, hvalues, _⟩ => ?_⟩
          obtain ⟨digit, rest, hc, -, rfl⟩ := List.forall₂_cons_left_iff.mp hvalues
          rw [digitValue?_eq_some_iff.mpr hc] at hdigit
          cases hdigit
      | some digit =>
          simp only [ih]
          constructor
          · rintro ⟨values, hvalues, rfl⟩
            exact ⟨digit :: values, .cons (digitValue?_eq_some_iff.mp hdigit) hvalues,
              (hshift digit hvalues).symm⟩
          · rintro ⟨values, hvalues, rfl⟩
            obtain ⟨digit', rest, hc, hrest, rfl⟩ := List.forall₂_cons_left_iff.mp hvalues
            obtain rfl := Option.some.inj (hdigit.symm.trans (digitValue?_eq_some_iff.mpr hc))
            exact ⟨rest, hrest, hshift digit hrest⟩

/-- Digits name a character if their number is the one of the character. -/
theorem char?_eq_some_iff :
    char? digits = some c ↔ ∃ values, List.Forall₂ IsDigit digits values ∧
      Nat.ofDigits 16 values.reverse = c.toNat := by
  have hvalue : (∃ values, List.Forall₂ IsDigit digits values ∧
      Nat.ofDigits 16 values.reverse = c.toNat) ↔ valueFrom? 0 digits = some c.toNat := by
    simp [valueFrom?_eq_some_iff]
  rw [hvalue, char?]
  cases valueFrom? 0 digits with
  | none => simp
  | some n =>
      simp only [Option.some.injEq]
      constructor
      · intro h
        split_ifs at h with hvalid
        obtain rfl := Option.some.inj h
        rw [Char.ofNat, dif_pos hvalid]
        rfl
      · rintro rfl
        rw [if_pos (show c.toNat.isValidChar from c.valid), Char.ofNat_toNat]

/-- Fewer than eight digits leave room for one more in a word of 32 bits. -/
theorem valueFrom?_lt (hlength : digits.length < 8) (h : valueFrom? 0 digits = some n) :
    n * 16 + 15 < UInt32.size := by
  obtain ⟨values, hvalues, rfl⟩ := valueFrom?_eq_some_iff.mp h
  have hdigits : ∀ digit ∈ values.reverse, digit < 16 := fun digit hdigit =>
    Traversal.forall_mem (fun _ _ h => h.lt) hvalues digit (List.mem_reverse.mp hdigit)
  have hbound := Nat.ofDigits_lt_base_pow_length (by decide) hdigits
  rw [List.length_reverse, ← hvalues.length_eq] at hbound
  have hpow : 16 ^ digits.length ≤ 16 ^ 7 := Nat.pow_le_pow_right (by decide) (by omega)
  have hsize : UInt32.size = 16 ^ 7 * 16 := rfl
  omega

end TypedSql.Text.Hexadecimal

namespace TypedSql.Literal

open Text.Hexadecimal (IsDigit)

/-- The letters of the simple escapes, with what they stand for. -/
def simpleEscapes : List (Char × Char) :=
  [('\\', '\\'), ('"', '"'), ('\'', '\''), ('n', '\n'), ('r', '\r'), ('t', '\t'), ('a', '\x07'),
    ('b', '\x08'), ('f', '\x0c'), ('v', '\x0b')]

/-- The letters of the numeric escapes, with how many digits follow them. -/
def numericEscapes : List (Char × Nat) :=
  [('x', 2), ('u', 4), ('U', 8)]

inductive Spells : List Char → Char → Prop
  | plain {c : Char} (hquote : c ≠ '"') (hslash : c ≠ '\\') (hline : c ≠ '\n') : Spells [c] c
  | simple {letter c : Char} (h : (letter, c) ∈ simpleEscapes) : Spells ['\\', letter] c
  | numeric {letter c : Char} {count : Nat} {digits : List Char} {values : List Nat}
      (h : (letter, count) ∈ numericEscapes) (hcount : digits.length = count)
      (hdigits : List.Forall₂ IsDigit digits values)
      (hvalue : Nat.ofDigits 16 values.reverse = c.toNat) : Spells ('\\' :: letter :: digits) c

/-- The items are spellings, with the characters that they spell. -/
def AreItems (items : List (List Char × Char)) : Prop :=
  ∀ item ∈ items, Spells item.1 item.2

variable {text rest spelling before out : List Char} {c letter : Char}

theorem simpleEscape?_eq_some_iff :
    simpleEscape? letter = some c ↔ (letter, c) ∈ simpleEscapes := by
  simp only [simpleEscapes, List.mem_cons, List.not_mem_nil, or_false, Prod.mk.injEq]
  unfold simpleEscape?
  split_ifs with hself
  · obtain rfl | rfl | rfl := hself <;> simp [eq_comm]
  all_goals simp_all [eq_comm]

theorem escapeDigits?_eq_some_iff {count : Nat} :
    escapeDigits? letter = some count ↔ (letter, count) ∈ numericEscapes := by
  simp only [numericEscapes, List.mem_cons, List.not_mem_nil, or_false, Prod.mk.injEq]
  unfold escapeDigits?
  split_ifs
  all_goals simp_all [eq_comm]

theorem escapeDigits?_of_simple (h : (letter, c) ∈ simpleEscapes) :
    escapeDigits? letter = none := by
  have hnone : ∀ pair ∈ simpleEscapes, escapeDigits? pair.1 = none := by decide
  exact hnone _ h

/-- What is read at the beginning of a text is the spelling that stands there. -/
theorem readItem?_eq_some_iff :
    readItem? text = some (c, rest) ↔ ∃ spelling, Spells spelling c ∧ text = spelling ++ rest := by
  constructor
  · intro h
    unfold readItem? at h
    split at h
    · cases h
    · cases h
    · next letter after =>
        split at h
        · next count hcount =>
            simp only at h
            split_ifs at h with hshort
            obtain ⟨d, hd, hpair⟩ := Option.map_eq_some_iff.mp h
            obtain ⟨rfl, rfl⟩ := Prod.mk.inj hpair
            obtain ⟨values, hvalues, hvalue⟩ := Text.Hexadecimal.char?_eq_some_iff.mp hd
            refine ⟨_, .numeric (escapeDigits?_eq_some_iff.mp hcount) ?_ hvalues hvalue, ?_⟩
            · exact Nat.le_antisymm (List.length_take_le _ _) (Nat.not_lt.mp hshort)
            · simp
        · obtain ⟨d, hd, hpair⟩ := Option.map_eq_some_iff.mp h
          obtain ⟨rfl, rfl⟩ := Prod.mk.inj hpair
          exact ⟨_, .simple (simpleEscape?_eq_some_iff.mp hd), rfl⟩
    · next d after hlast hslash =>
        split_ifs at h with hspecial
        obtain ⟨rfl, rfl⟩ := Prod.mk.inj (Option.some.inj h)
        obtain ⟨hquote, hline⟩ := not_or.mp hspecial
        refine ⟨[d], .plain hquote ?_ hline, rfl⟩
        -- A backslash stands for itself neither at the end nor before a letter.
        rintro rfl
        cases after with
        | nil => exact hlast rfl rfl
        | cons letter tail => exact hslash letter tail rfl rfl
  · rintro ⟨spelling, hspells, rfl⟩
    cases hspells with
    | plain hquote hslash hline =>
        rw [List.cons_append, List.nil_append, readItem?, if_neg (not_or.mpr ⟨hquote, hline⟩)]
        · exact fun h => absurd h hslash
        · exact fun _ _ h => absurd h hslash
    | @simple letter _ h =>
        simp only [List.cons_append, List.nil_append, readItem?, escapeDigits?_of_simple h,
          simpleEscape?_eq_some_iff.mpr h, Option.map_some]
    | @numeric letter _ count digits values h hcount hdigits hvalue =>
        have hchar := Text.Hexadecimal.char?_eq_some_iff.mpr ⟨values, hdigits, hvalue⟩
        have htake : (digits ++ rest).take count = digits := List.take_left' hcount
        have hdrop : (digits ++ rest).drop count = rest := List.drop_left' hcount
        simp only [List.cons_append, readItem?, escapeDigits?_eq_some_iff.mpr h, htake, hdrop]
        rw [if_neg (Nat.not_lt.mpr (Nat.le_of_eq hcount.symm)), hchar, Option.map_some]

theorem Spells.readItem?_append (h : Spells spelling c) (rest : List Char) :
    readItem? (spelling ++ rest) = some (c, rest) :=
  readItem?_eq_some_iff.mpr ⟨spelling, h, rfl⟩

theorem Spells.ne_nil (h : Spells spelling c) : spelling ≠ [] := by
  cases h <;> exact List.cons_ne_nil _ _

/-- No text begins with two different spellings. -/
theorem Spells.unique {spelling' rest' : List Char} {c' : Char} (h : Spells spelling c)
    (h' : Spells spelling' c') (htext : spelling ++ rest = spelling' ++ rest') :
    spelling = spelling' ∧ c = c' ∧ rest = rest' := by
  have hread := h.readItem?_append rest
  rw [htext, h'.readItem?_append rest'] at hread
  obtain ⟨rfl, rfl⟩ := Prod.mk.inj (Option.some.inj hread)
  exact ⟨List.append_cancel_right htext, rfl, rfl⟩

/-- A body is cut into items in one way only. -/
theorem AreItems.unique {items items' : List (List Char × Char)} (h : AreItems items)
    (h' : AreItems items') (hbody : items.flatMap Prod.fst = items'.flatMap Prod.fst) :
    items = items' := by
  induction items generalizing items' with
  | nil =>
      cases items' with
      | nil => rfl
      | cons item' rest' =>
          obtain ⟨hitem', -⟩ := List.forall_mem_cons.mp h'
          exact absurd (List.append_eq_nil_iff.mp hbody.symm).1 hitem'.ne_nil
  | cons item rest ih =>
      obtain ⟨hitem, hrest⟩ := List.forall_mem_cons.mp h
      cases items' with
      | nil => exact absurd (List.append_eq_nil_iff.mp hbody).1 hitem.ne_nil
      | cons item' rest' =>
          obtain ⟨hitem', hrest'⟩ := List.forall_mem_cons.mp h'
          obtain ⟨hspelling, hc, hbody⟩ := hitem.unique hitem' hbody
          rw [Prod.ext hspelling hc, ih hrest hrest' hbody]

section Body

theorem readBody?_quote : readBody? before ['"'] = some before.reverse := by
  rw [readBody?, if_pos rfl]

theorem readBody?_item (h : readItem? text = some (c, rest)) :
    readBody? before text = readBody? (c :: before) rest := by
  have htext : text ≠ ['"'] := by
    rintro rfl
    cases h
  -- The match keeps the equation of what it reads, so it cannot be rewritten with it.
  rw [readBody?, if_neg htext]
  split
  · next d after hsome =>
      obtain ⟨rfl, rfl⟩ := Prod.mk.inj (Option.some.inj (h.symm.trans hsome))
      rfl
  · next hnone =>
      rw [h] at hnone
      cases hnone

theorem readBody?_none (hquote : text ≠ ['"']) (h : readItem? text = none) :
    readBody? before text = none := by
  rw [readBody?, if_neg hquote]
  split
  · next hsome =>
      rw [h] at hsome
      cases hsome
  · rfl

/-- A body is read if it consists of items and a quote, which is then its last character. -/
theorem readBody?_eq_some_iff :
    readBody? before text = some out ↔ ∃ items, AreItems items ∧
      text = items.flatMap Prod.fst ++ ['"'] ∧ out = before.reverse ++ items.map Prod.snd := by
  constructor
  · intro h
    induction before, text using readBody?.induct with
    | case1 before =>
        rw [readBody?_quote] at h
        exact ⟨[], nofun, rfl, by simpa using (Option.some.inj h).symm⟩
    | case2 before text hquote c rest hitem _ ih =>
        rw [readBody?_item hitem] at h
        obtain ⟨items, hitems, rfl, rfl⟩ := ih h
        obtain ⟨spelling, hspells, rfl⟩ := readItem?_eq_some_iff.mp hitem
        exact ⟨(spelling, c) :: items, List.forall_mem_cons.mpr ⟨hspells, hitems⟩, by simp, by simp⟩
    | case3 before text hquote hnone =>
        rw [readBody?_none hquote hnone] at h
        cases h
  · rintro ⟨items, hitems, rfl, rfl⟩
    induction items generalizing before with
    | nil => simp [readBody?_quote]
    | cons item items ih =>
        obtain ⟨hitem, hitems⟩ := List.forall_mem_cons.mp hitems
        rw [List.flatMap_cons, List.append_assoc, readBody?_item (hitem.readItem?_append _),
          ih hitems]
        simp

theorem readRaw?_eq_some_iff :
    readRaw? text = some out ↔ ∃ body, '\x60' ∉ body ∧ text = body ++ ['\x60'] ∧
      out = body.filter (· != '\r') := by
  rw [readRaw?]
  constructor
  · intro h
    split_ifs at h with htext
    refine ⟨_, fun hmem => ?_, htext, (Option.some.inj h).symm⟩
    simpa using List.mem_takeWhile_imp hmem
  · rintro ⟨body, hbody, rfl, rfl⟩
    simp only [(Text.split_at_first hbody []).1, if_true]

end Body

/-- The literal is a body without backquotes between two of them. -/
def IsRaw (literal : String) (body : List Char) : Prop :=
  '\x60' ∉ body ∧ literal.toList = '\x60' :: (body ++ ['\x60'])

/-- The literal is made of the items, between two quotes. -/
def IsQuoted (literal : String) (items : List (List Char × Char)) : Prop :=
  AreItems items ∧ literal.toList = '"' :: (items.flatMap Prod.fst ++ ['"'])

theorem unquote?_eq_some_iff {literal value : String} :
    unquote? literal = some value ↔
      (∃ body, IsRaw literal body ∧ value.toList = body.filter (· != '\r')) ∨
      (∃ items, IsQuoted literal items ∧ value.toList = items.map Prod.snd) := by
  have hvalue (read : Option (List Char)) :
      read.map String.ofList = some value ↔ read = some value.toList := by
    rw [Option.map_eq_some_iff]
    constructor
    · rintro ⟨out, hread, rfl⟩
      rw [hread, String.toList_ofList]
    · intro hread
      exact ⟨_, hread, String.ofList_toList⟩
  rw [unquote?]
  cases hliteral : literal.toList with
  | nil => simp [IsRaw, IsQuoted, hliteral]
  | cons c rest =>
      simp only [IsRaw, IsQuoted, hliteral, List.cons.injEq]
      by_cases hraw : c = '\x60'
      · simp [hraw, hvalue, readRaw?_eq_some_iff, and_assoc]
      · by_cases hquote : c = '"'
        · simp [hquote, hvalue, readBody?_eq_some_iff, and_assoc]
        · simp [hraw, hquote]

theorem spells_quoteChar (c : Char) : Spells (quoteChar c) c := by
  unfold quoteChar
  split_ifs with hslash hquote hline
  · exact .simple (by simp [simpleEscapes, hslash])
  · exact .simple (by simp [simpleEscapes, hquote])
  · exact .simple (by simp [simpleEscapes, hline])
  · exact .plain hquote hslash hline

/-- A text put into quotes denotes itself. -/
theorem unquote?_quote (text : String) : unquote? (quote text) = some text := by
  refine unquote?_eq_some_iff.mpr (.inr ⟨text.toList.map fun c => (quoteChar c, c), ⟨?_, ?_⟩, ?_⟩)
  · intro item hitem
    obtain ⟨c, -, rfl⟩ := List.mem_map.mp hitem
    exact spells_quoteChar c
  · rw [quote, String.toList_ofList, List.flatMap_map]
  · simp [Function.comp_def]

/-- The literals are the raw ones, which denote their body without carriage returns, and the quoted
ones, which denote what their items spell. A quoted body is cut into items in one way only. While
the digits of an escape are read, their number fits into 32 bits after every step. Every text is
denoted by a literal: the text in quotes. -/
theorem unquote?_grammar :
    (∀ literal value, unquote? literal = some value ↔
      (∃ body, IsRaw literal body ∧ value.toList = body.filter (· != '\r')) ∨
      (∃ items, IsQuoted literal items ∧ value.toList = items.map Prod.snd)) ∧
    (∀ items items', AreItems items → AreItems items' →
      items.flatMap Prod.fst = items'.flatMap Prod.fst → items = items') ∧
    (∀ letter count read n, escapeDigits? letter = some count → read.length < count →
      Text.Hexadecimal.valueFrom? 0 read = some n → n * 16 < UInt32.size ∧
        ∀ c digit, Text.Hexadecimal.digitValue? c = some digit → n * 16 + digit < UInt32.size) ∧
    ∀ text, unquote? (quote text) = some text := by
  refine ⟨fun literal value => unquote?_eq_some_iff, fun items items' h h' => h.unique h', ?_,
    unquote?_quote⟩
  intro letter count read n hcount hread hn
  have height : ∀ pair ∈ numericEscapes, pair.2 ≤ 8 := by decide
  have hlength : read.length < 8 :=
    Nat.lt_of_lt_of_le hread (height _ (escapeDigits?_eq_some_iff.mp hcount))
  have hroom := Text.Hexadecimal.valueFrom?_lt hlength hn
  refine ⟨by omega, fun c digit hdigit => ?_⟩
  have := Text.Hexadecimal.digitValue?_lt hdigit
  omega

def allEscapes : List (List Char × Char) :=
  [(['x'], 'x'), (['\\', 'x', '4', 'a'], 'J'), (['\\', 'u', '0', '0', 'E', '9'], '\u00e9'),
    (['\\', 'U', '0', '0', '0', '0', '0', '0', 'd', 'f'], '\u00df'), (['\\', '"'], '"')]

/-- A literal with items of every kind, and the largest number of seven digits. -/
theorem unquote?_grammar_allEscapes :
    (AreItems allEscapes ∧
      unquote? "\"x\\x4a\\u00E9\\U000000df\\\"\"" = some "xJ\u00e9\u00df\"") ∧
    Text.Hexadecimal.valueFrom? 0 "FFFFFFF".toList = some 0xFFFFFFF ∧
      0xFFFFFFF * 16 + 15 < UInt32.size := by
  obtain ⟨haccepts, -, hfits, -⟩ := unquote?_grammar
  have hitems : AreItems allEscapes := by
    intro item hitem
    simp only [allEscapes, List.mem_cons, List.not_mem_nil, or_false] at hitem
    rcases hitem with rfl | rfl | rfl | rfl | rfl
    · exact .plain (by decide) (by decide) (by decide)
    · exact @Spells.numeric 'x' 'J' 2 ['4', 'a'] [4, 10] (by decide) rfl (by decide +kernel)
        (by decide)
    · exact @Spells.numeric 'u' '\u00e9' 4 ['0', '0', 'E', '9'] [0, 0, 14, 9] (by decide) rfl
        (by decide +kernel) (by decide)
    · exact @Spells.numeric 'U' '\u00df' 8 ['0', '0', '0', '0', '0', '0', 'd', 'f']
        [0, 0, 0, 0, 0, 0, 13, 15] (by decide) rfl (by decide +kernel) (by decide)
    · exact .simple (by decide)
  refine ⟨⟨hitems, ?_⟩, by decide +kernel, ?_⟩
  · exact (haccepts _ _).mpr (.inr ⟨allEscapes, ⟨hitems, by decide +kernel⟩, by decide +kernel⟩)
  · have hstep := hfits 'U' 8 "FFFFFFF".toList 0xFFFFFFF (by decide) (by decide +kernel)
      (by decide +kernel)
    exact hstep.2 'f' 15 (by decide)

end TypedSql.Literal
