import TypedSql.Json.Number
import TypedSql.Json.Value
import TypedSql.Proofs.Text.ByteOrder

/-!
The tokens of what is written. Every piece of a written JSON text is described by the tokens that
the lexer makes of it, whatever was read before and whatever follows. Only a word, which is a
literal or a numeral, has to end before the next byte of a word; in a written text punctuation
follows it, or nothing.
-/

namespace TypedSql.Utf8

def encodeChars (chars : List Char) : Bytes :=
  chars.flatMap String.utf8EncodeChar

theorem encode_ofList (chars : List Char) : encode (String.ofList chars) = encodeChars chars := by
  rw [encode_eq, String.toList_ofList, encodeChars]

theorem encodeChars_append (first second : List Char) :
    encodeChars (first ++ second) = encodeChars first ++ encodeChars second :=
  List.flatMap_append

theorem encodeChars_cons (c : Char) (chars : List Char) :
    encodeChars (c :: chars) = String.utf8EncodeChar c ++ encodeChars chars :=
  List.flatMap_cons

/-- A character is one byte, which is its number, or consists of bytes with the high bit set. -/
theorem utf8EncodeChar_cases (c : Char) :
    (c.toNat < 128 ∧ String.utf8EncodeChar c = [UInt8.ofNat c.toNat]) ∨
      128 ≤ c.toNat ∧ ∀ byte ∈ String.utf8EncodeChar c, 0x80 ≤ byte := by
  have hhigh : ∀ n, 128 ≤ n → n < 256 → 0x80 ≤ UInt8.ofNat n := by
    intro n hlow hsize
    rw [UInt8.le_iff_toNat_le, UInt8.toNat_ofNat', Nat.mod_eq_of_lt hsize]
    exact hlow
  have hmost : c.val.toNat < 1114112 := by
    have hvalid : c.val.toNat.isValidChar := c.valid
    unfold Nat.isValidChar at hvalid
    omega
  unfold String.utf8EncodeChar Char.toNat
  generalize c.val.toNat = v at hmost
  dsimp only
  by_cases hone : v ≤ 127
  · rw [if_pos hone]
    exact Or.inl ⟨by omega, rfl⟩
  · refine Or.inr ⟨by omega, ?_⟩
    rw [if_neg hone]
    split_ifs
    all_goals
      simp only [List.mem_cons, List.not_mem_nil, or_false, forall_eq_or_imp, forall_eq]
      refine ⟨hhigh _ (by omega) (by omega), ?_⟩
    · exact hhigh _ (by omega) (by omega)
    · exact ⟨hhigh _ (by omega) (by omega), hhigh _ (by omega) (by omega)⟩
    · exact ⟨hhigh _ (by omega) (by omega), hhigh _ (by omega) (by omega),
        hhigh _ (by omega) (by omega)⟩

end TypedSql.Utf8

namespace TypedSql.Json

open Utf8 (encodeChars encodeChars_append encodeChars_cons)

/-- What follows cannot belong to a word. -/
def EndsWord (rest : Bytes) : Prop :=
  ∀ byte ∈ rest.head?, isWordByte byte = false

/-- The characters are the tokens, wherever a token may begin and no word goes on after them. -/
def Lexes (chars : List Char) (tokens : List Token) : Prop :=
  ∀ before rest, EndsWord rest →
    Inside.nothing.lex? before (encodeChars chars ++ rest) =
      Inside.nothing.lex? (tokens.reverse ++ before) rest

section Words

/-- A byte of a word is no space and no quote. -/
theorem beginToken?_wordByte {byte : UInt8} (h : isWordByte byte = true) (tokens : List Token) :
    beginToken? byte tokens = some (.word [byte], tokens) := by
  have hall : ∀ n < 256, isWordByte (UInt8.ofNat n) = true →
      isSpace (UInt8.ofNat n) = false ∧ (UInt8.ofNat n == '"'.toUInt8) = false := by
    decide +kernel
  obtain ⟨hspace, hquote⟩ := hall byte.toNat byte.toNat_lt (by rwa [UInt8.ofNat_toNat])
  rw [UInt8.ofNat_toNat] at hspace hquote
  simp [beginToken?, hspace, hquote, h]

theorem lex?_word {word : Bytes} (hword : ∀ byte ∈ word, isWordByte byte = true)
    (read : Bytes) (before : List Token) (rest : Bytes) :
    (Inside.word read).lex? before (word ++ rest) =
      (Inside.word (word.reverse ++ read)).lex? before rest := by
  induction word generalizing read with
  | nil => rfl
  | cons byte word ih =>
      have hbyte := hword byte (by simp)
      have hrest := ih (fun other hother => hword other (List.mem_cons_of_mem byte hother))
        (byte :: read)
      rw [List.cons_append, Inside.lex?, Inside.step?, if_pos hbyte]
      simp only [hrest, List.reverse_cons, List.append_assoc, List.singleton_append]

/-- The end of a word is where its token is made. -/
theorem lex?_endsWord {read : Bytes} {token : Token} (htoken : wordToken? read.reverse = some token)
    (before : List Token) {rest : Bytes} (hrest : EndsWord rest) :
    (Inside.word read).lex? before rest = Inside.nothing.lex? (token :: before) rest := by
  cases rest with
  | nil => simp only [Inside.lex?, htoken, Option.map_some]
  | cons byte rest =>
      have hbyte : isWordByte byte = false := hrest byte (by simp)
      rw [Inside.lex?, Inside.lex?, Inside.step?, Inside.step?, hbyte, htoken]
      rfl

theorem lexes_word {chars : List Char} {token : Token} (hne : encodeChars chars ≠ [])
    (hword : ∀ byte ∈ encodeChars chars, isWordByte byte = true)
    (htoken : wordToken? (encodeChars chars) = some token) : Lexes chars [token] := by
  intro before rest hrest
  obtain ⟨byte, word, hbytes⟩ := List.exists_cons_of_ne_nil hne
  rw [hbytes] at hword htoken ⊢
  have hfirst := beginToken?_wordByte (hword byte (by simp)) before
  have hlater : ∀ other ∈ word, isWordByte other = true :=
    fun other hother => hword other (List.mem_cons_of_mem byte hother)
  rw [List.cons_append, Inside.lex?, Inside.step?, hfirst]
  change (Inside.word [byte]).lex? before (word ++ rest) = _
  rw [lex?_word hlater]
  refine lex?_endsWord ?_ before hrest
  rw [List.reverse_append, List.reverse_reverse]
  exact htoken

end Words

section Punctuation

variable {c : Char} {token : Token} {chars chars' : List Char} {tokens tokens' : List Token}

theorem lexes_nil : Lexes [] [] := fun _ _ _ => rfl

structure IsPunctuation (c : Char) (token : Token) : Prop where
  ascii : String.utf8EncodeChar c = [c.toUInt8]
  begins : ∀ tokens, beginToken? c.toUInt8 tokens = some (.nothing, token :: tokens)
  endsWord : isWordByte c.toUInt8 = false

theorem Lexes.punctuation (hc : IsPunctuation c token) (h : Lexes chars tokens) :
    Lexes (c :: chars) (token :: tokens) := by
  intro before rest hrest
  rw [encodeChars_cons, hc.ascii, List.append_assoc, List.singleton_append, Inside.lex?,
    Inside.step?, hc.begins]
  change Inside.nothing.lex? (token :: before) (encodeChars chars ++ rest) = _
  rw [h _ _ hrest, List.reverse_cons, List.append_assoc, List.singleton_append]

/-- Punctuation ends whatever stands before it. -/
theorem Lexes.append (h : Lexes chars tokens) (hc : IsPunctuation c token)
    (h' : Lexes chars' tokens') :
    Lexes (chars ++ c :: chars') (tokens ++ token :: tokens') := by
  intro before rest hrest
  have hends : EndsWord (encodeChars (c :: chars') ++ rest) := by
    rw [encodeChars_cons, hc.ascii]
    intro byte hbyte
    obtain rfl : c.toUInt8 = byte := by simpa using hbyte
    exact hc.endsWord
  rw [encodeChars_append, List.append_assoc, h _ _ hends, (h'.punctuation hc) _ _ hrest,
    List.reverse_append, List.append_assoc]

theorem isPunctuation_openArray : IsPunctuation '[' .openArray :=
  ⟨by decide, fun _ => rfl, by decide⟩

theorem isPunctuation_closeArray : IsPunctuation ']' .closeArray :=
  ⟨by decide, fun _ => rfl, by decide⟩

theorem isPunctuation_openObject : IsPunctuation '\x7b' .openObject :=
  ⟨by decide, fun _ => rfl, by decide⟩

theorem isPunctuation_closeObject : IsPunctuation '\x7d' .closeObject :=
  ⟨by decide, fun _ => rfl, by decide⟩

theorem isPunctuation_comma : IsPunctuation ',' .comma :=
  ⟨by decide, fun _ => rfl, by decide⟩

theorem isPunctuation_colon : IsPunctuation ':' .colon :=
  ⟨by decide, fun _ => rfl, by decide⟩

end Punctuation

section Strings

/-- Inside a string, the characters are read as the pieces, and these stand for the bytes. -/
structure Spells (chars : List Char) (pieces : List Piece) (bytes : Bytes) : Prop where
  lex : ∀ read before rest,
    (Inside.string read).lex? before (encodeChars chars ++ rest) =
      (Inside.string (pieces.reverse ++ read)).lex? before rest
  denote : ∀ before rest,
    bytesOfPieces? before (pieces ++ rest) = bytesOfPieces? (bytes.reverse ++ before) rest

theorem spells_nil : Spells [] [] [] := ⟨fun _ _ _ => rfl, fun _ _ => rfl⟩

theorem Spells.append {chars chars' : List Char} {pieces pieces' : List Piece}
    {bytes bytes' : Bytes} (h : Spells chars pieces bytes) (h' : Spells chars' pieces' bytes') :
    Spells (chars ++ chars') (pieces ++ pieces') (bytes ++ bytes') where
  lex read before rest := by
    rw [encodeChars_append, List.append_assoc, h.lex, h'.lex, List.reverse_append,
      List.append_assoc]
  denote before rest := by
    rw [List.append_assoc, h.denote, h'.denote, List.reverse_append, List.append_assoc]

/-- A byte that ends no string, begins no escape and is no control. -/
def IsPlain (byte : UInt8) : Prop :=
  (byte == '"'.toUInt8) = false ∧ (byte == '\\'.toUInt8) = false ∧ ¬ byte < 0x20
deriving Decidable

theorem spells_plain {chars : List Char} (h : ∀ byte ∈ encodeChars chars, IsPlain byte) :
    Spells chars ((encodeChars chars).map .byte) (encodeChars chars) := by
  refine ⟨fun read before rest => ?_, fun before rest => ?_⟩
  · generalize encodeChars chars = bytes at h
    induction bytes generalizing read with
    | nil => rfl
    | cons byte bytes ih =>
        obtain ⟨hquote, hescape, hcontrol⟩ := h byte (by simp)
        have hrest := ih (.byte byte :: read)
          (fun other hother => h other (List.mem_cons_of_mem byte hother))
        rw [List.cons_append, Inside.lex?, Inside.step?]
        simp only [hquote, hescape, hcontrol, Bool.false_eq_true, if_false, hrest, List.map_cons,
          List.reverse_cons, List.append_assoc, List.singleton_append]
  · generalize encodeChars chars = bytes
    induction bytes generalizing before with
    | nil => rfl
    | cons byte bytes ih =>
        rw [List.map_cons, List.cons_append, bytesOfPieces?, ih, List.reverse_cons,
          List.append_assoc, List.singleton_append]

/-- A backslash and the letter of a character. -/
theorem spells_escape (c : Char) {letter : Char}
    (hascii : String.utf8EncodeChar letter = [letter.toUInt8] ∧
      String.utf8EncodeChar c = [c.toUInt8])
    (hunit : (letter.toUInt8 == 'u'.toUInt8) = false)
    (hvalue : escapeByte? letter.toUInt8 = some c.toUInt8) :
    Spells ['\\', letter] [.escape c.toUInt8] (String.utf8EncodeChar c) := by
  have hbytes : encodeChars ['\\', letter] = ['\\'.toUInt8, letter.toUInt8] := by
    rw [encodeChars_cons, encodeChars_cons, hascii.1]
    rfl
  refine ⟨fun read before rest => ?_, fun _ _ => by rw [hascii.2]; rfl⟩
  rw [hbytes]
  change (Inside.escape read).lex? before (letter.toUInt8 :: rest) = _
  rw [Inside.lex?, Inside.step?]
  simp only [hunit, hvalue, Bool.false_eq_true, if_false, Option.map_some]
  rfl

/-- A hexadecimal digit is one byte and is read back. -/
theorem hexValue?_digitChar {n : Nat} (h : n < 16) :
    ∃ byte, String.utf8EncodeChar (Nat.digitChar n) = [byte] ∧ hexValue? byte = some n := by
  have hall : ∀ n < 16, String.utf8EncodeChar (Nat.digitChar n) = [(Nat.digitChar n).toUInt8] ∧
      hexValue? (Nat.digitChar n).toUInt8 = some n := by
    decide +kernel
  exact ⟨_, hall n h⟩

/-- A control is written as its number in four digits. -/
theorem spells_control {c : Char} (h : c.toNat < 0x20) :
    Spells ['\\', 'u', '0', '0', Nat.digitChar (c.toNat / 16), Nat.digitChar (c.toNat % 16)]
      [.unit c.toNat] (String.utf8EncodeChar c) := by
  obtain ⟨high, hhigh, hhighValue⟩ := @hexValue?_digitChar (c.toNat / 16) (by omega)
  obtain ⟨low, hlow, hlowValue⟩ := @hexValue?_digitChar (c.toNat % 16) (by omega)
  have hzero : hexValue? '0'.toUInt8 = some 0 := by decide
  have hbytes : encodeChars
      ['\\', 'u', '0', '0', Nat.digitChar (c.toNat / 16), Nat.digitChar (c.toNat % 16)] =
        ['\\'.toUInt8, 'u'.toUInt8, '0'.toUInt8, '0'.toUInt8, high, low] := by
    simp only [encodeChars_cons, hhigh, hlow]
    rfl
  have hnumber : c.toNat / 16 * 16 + c.toNat % 16 = c.toNat := by omega
  refine ⟨fun read before rest => ?_, fun before rest => ?_⟩
  · rw [hbytes]
    change (Inside.unit read 3 0).lex? before
      ('0'.toUInt8 :: '0'.toUInt8 :: high :: low :: rest) = _
    simp only [Inside.lex?, Inside.step?, hzero, hhighValue, hlowValue, Option.map_some,
      Nat.zero_mul, Nat.zero_add, hnumber]
    rfl
  · have hchar : Utf8.encode (Char.ofNat c.toNat).toString = String.utf8EncodeChar c := by
      rw [Char.ofNat_toNat, Utf8.encode_eq]
      simp
    rw [List.singleton_append, bytesOfPieces?.eq_def]
    dsimp only
    rw [if_neg (by omega), if_neg (by omega), hchar]

theorem isPlain_of_mem {c : Char} (hquote : c ≠ '"') (hbackslash : c ≠ '\\')
    (hcontrol : ¬ c.toNat < 0x20) : ∀ byte ∈ encodeChars [c], IsPlain byte := by
  have hhigh : ∀ n < 256, 0x80 ≤ UInt8.ofNat n → IsPlain (UInt8.ofNat n) := by decide +kernel
  have hlow : ∀ n < 128, n ≠ '"'.toNat → n ≠ '\\'.toNat → ¬ n < 0x20 → IsPlain (UInt8.ofNat n) := by
    decide +kernel
  rw [encodeChars_cons, encodeChars, List.flatMap_nil, List.append_nil]
  rcases Utf8.utf8EncodeChar_cases c with ⟨hascii, hbytes⟩ | ⟨_, hbytes⟩
  · intro byte hbyte
    obtain rfl : byte = UInt8.ofNat c.toNat := by simpa [hbytes] using hbyte
    exact hlow _ hascii (fun h => hquote (Char.toNat_inj.mp h))
      (fun h => hbackslash (Char.toNat_inj.mp h)) hcontrol
  · intro byte hbyte
    have hlarge : 0x80 ≤ UInt8.ofNat byte.toNat := by
      rw [UInt8.ofNat_toNat]
      exact hbytes byte hbyte
    have hplain := hhigh byte.toNat byte.toNat_lt hlarge
    rwa [UInt8.ofNat_toNat] at hplain

/-- A character is written so that it is read as its bytes. -/
theorem exists_spells_escapeChar (c : Char) :
    ∃ pieces, Spells (escapeChar c) pieces (String.utf8EncodeChar c) := by
  unfold escapeChar
  split_ifs with hquote hbackslash hbackspace hfeed hline hreturn htab hcontrol
  · subst hquote
    exact ⟨_, spells_escape '"' (by decide) rfl rfl⟩
  · subst hbackslash
    exact ⟨_, spells_escape '\\' (by decide) rfl rfl⟩
  · subst hbackspace
    exact ⟨_, spells_escape '\x08' (by decide) rfl rfl⟩
  · subst hfeed
    exact ⟨_, spells_escape '\x0c' (by decide) rfl rfl⟩
  · subst hline
    exact ⟨_, spells_escape '\n' (by decide) rfl rfl⟩
  · subst hreturn
    exact ⟨_, spells_escape '\r' (by decide) rfl rfl⟩
  · subst htab
    exact ⟨_, spells_escape '\t' (by decide) rfl rfl⟩
  · exact ⟨_, spells_control hcontrol⟩
  · have hplain : ∀ byte ∈ encodeChars [c], IsPlain byte :=
      isPlain_of_mem hquote hbackslash hcontrol
    have hspells := spells_plain hplain
    rw [encodeChars_cons, encodeChars, List.flatMap_nil, List.append_nil] at hspells
    exact ⟨_, hspells⟩

/-- A written string is one token, and denotes the text. -/
theorem exists_lexes_stringText (text : String) :
    ∃ pieces, Lexes (stringText text) [.string pieces] ∧ textOfPieces? pieces = some text := by
  have hchars : ∀ chars : List Char,
      ∃ pieces, Spells (chars.flatMap escapeChar) pieces (encodeChars chars) := by
    intro chars
    induction chars with
    | nil => exact ⟨[], spells_nil⟩
    | cons c chars ih =>
        obtain ⟨first, hfirst⟩ := exists_spells_escapeChar c
        obtain ⟨others, hothers⟩ := ih
        rw [List.flatMap_cons, encodeChars_cons]
        exact ⟨_, hfirst.append hothers⟩
  obtain ⟨pieces, hpieces⟩ := hchars text.toList
  refine ⟨pieces, fun before rest _ => ?_, ?_⟩
  · rw [stringText, encodeChars_cons, encodeChars_append, List.append_assoc, List.append_assoc]
    change (Inside.string []).lex? before (encodeChars _ ++ ('"'.toUInt8 :: rest)) = _
    rw [hpieces.lex, List.append_nil, Inside.lex?]
    change Inside.nothing.lex? (.string pieces.reverse.reverse :: before) rest = _
    rw [List.reverse_reverse]
    rfl
  · have hbytes : bytesOfPieces? [] pieces = some (Utf8.encode text) := by
      have hdenote := hpieces.denote [] []
      rw [List.append_nil, List.append_nil, bytesOfPieces?, List.reverse_reverse] at hdenote
      rw [hdenote, Utf8.encode_eq, encodeChars]
    rw [textOfPieces?, hbytes, Option.bind_some, Utf8.decode?_encode]

end Strings

end TypedSql.Json
