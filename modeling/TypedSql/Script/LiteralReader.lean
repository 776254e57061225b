import TypedSql.Script.Literal
import TypedSql.Text.Hexadecimal

/-!
What string and template literals denote. A template ends at the first backquote without a backslash
before it, and a string at the first such quote. Line ends inside a template are read as line feeds,
whatever they are in the file; a string has none. Templates with substitutions, and escapes for half
of a surrogate pair, have no value here.
-/

namespace TypedSql.Script

/-- The character that a letter after a backslash stands for. Most stand for themselves. -/
def controlEscape (c : Char) : Char :=
  if c = 'n' then '\n'
  else if c = 'r' then '\r'
  else if c = 't' then '\t'
  else if c = 'b' then '\x08'
  else if c = 'f' then '\x0c'
  else if c = 'v' then '\x0b'
  else c

def isLineEnd (c : Char) : Bool :=
  c == '\n' || c == '\r' || c == '\u2028' || c == '\u2029'

/-- A number of hexadecimal digits: the character with that number, and the rest of the text. -/
def readDigits? (count : Nat) (text : List Char) : Option (List Char × List Char) :=
  if text.length < count then none
  else (Text.Hexadecimal.char? (text.take count)).map fun c => ([c], text.drop count)

def readBraced? (text : List Char) : Option (List Char × List Char) :=
  let digits := text.takeWhile (· != '\x7d')
  if digits = [] ∨ digits = text then none
  else (Text.Hexadecimal.char? digits).map fun c => ([c], text.drop (digits.length + 1))

/-- What stands after a backslash: the characters denoted, and the rest of the text. A line end is
left out. A zero is the null character unless a digit follows, and no other digit is an escape. -/
def readEscape? : List Char → Option (List Char × List Char)
  | [] => none
  | c :: rest =>
    if c = '\r' ∧ rest.head? = some '\n' then some ([], rest.drop 1)
    else if isLineEnd c then some ([], rest)
    else if c = 'x' then readDigits? 2 rest
    else if c = 'u' then
      if rest.head? = some '\x7b' then readBraced? (rest.drop 1) else readDigits? 4 rest
    else if c.isDigit then
      if c = '0' ∧ (rest.head?.any Char.isDigit) = false then some (['\x00'], rest) else none
    else some ([controlEscape c], rest)

theorem length_of_readDigits? {count : Nat} {text value rest : List Char}
    (h : readDigits? count text = some (value, rest)) : rest.length ≤ text.length := by
  unfold readDigits? at h
  split at h
  · simp at h
  · simp only [Option.map_eq_some_iff, Prod.mk.injEq] at h
    obtain ⟨_, _, _, rfl⟩ := h
    simp only [List.length_drop]
    omega

theorem length_of_readBraced? {text value rest : List Char}
    (h : readBraced? text = some (value, rest)) : rest.length ≤ text.length := by
  unfold readBraced? at h
  simp only at h
  split at h
  · simp at h
  · simp only [Option.map_eq_some_iff, Prod.mk.injEq] at h
    obtain ⟨_, _, _, rfl⟩ := h
    simp only [List.length_drop]
    omega

theorem length_of_readEscape? {text value rest : List Char}
    (h : readEscape? text = some (value, rest)) : rest.length < text.length := by
  cases text with
  | nil => simp [readEscape?] at h
  | cons c tail =>
      rw [List.length_cons, Nat.lt_succ_iff]
      simp only [readEscape?] at h
      split at h
      · simp only [Option.some.injEq, Prod.mk.injEq] at h
        simp [← h.2]
      split at h
      · simp only [Option.some.injEq, Prod.mk.injEq] at h
        simp [h.2]
      split at h
      · exact length_of_readDigits? h
      split at h
      · split at h
        · have := length_of_readBraced? h
          simp only [List.length_drop] at this
          omega
        · exact length_of_readDigits? h
      split at h
      · split at h
        · simp only [Option.some.injEq, Prod.mk.injEq] at h
          simp [h.2]
        · simp at h
      · simp only [Option.some.injEq, Prod.mk.injEq] at h
        simp [h.2]

/-- Characters with every line end, of one or two characters, as one line feed. -/
def normalizeLineEnds : List Char → List Char
  | [] => []
  | '\r' :: '\n' :: rest => '\n' :: normalizeLineEnds rest
  | c :: rest => (if c = '\r' then '\n' else c) :: normalizeLineEnds rest

/-- The value of a template after its opening backquote, and what stands after the closing one. -/
def readTemplateBody? : List Char → Option (List Char × List Char)
  | [] => none
  | '$' :: '\x7b' :: _ => none
  | '\r' :: '\n' :: rest =>
    (readTemplateBody? rest).map fun (value, after) => ('\n' :: value, after)
  | c :: rest =>
    if c = '\x60' then some ([], rest)
    else if c = '\\' then
      match h : readEscape? rest with
      | none => none
      | some (value, after) =>
        have := length_of_readEscape? h
        (readTemplateBody? after).map fun (more, after) => (value ++ more, after)
    else
      (readTemplateBody? rest).map fun (value, after) =>
        ((if c = '\r' then '\n' else c) :: value, after)
termination_by text => text.length

def readStringBody? : List Char → Option (List Char × List Char)
  | [] => none
  | c :: rest =>
    if c = '"' then some ([], rest)
    else if c = '\n' ∨ c = '\r' then none
    else if c = '\\' then
      match h : readEscape? rest with
      | none => none
      | some (value, after) =>
        have := length_of_readEscape? h
        (readStringBody? after).map fun (more, after) => (value ++ more, after)
    else (readStringBody? rest).map fun (value, after) => (c :: value, after)
termination_by text => text.length

/-- The value of the template at the front of a text, and what stands after it. -/
def readTemplate? : List Char → Option (List Char × List Char)
  | '\x60' :: rest => readTemplateBody? rest
  | _ => none

def readString? : List Char → Option (List Char × List Char)
  | '"' :: rest => readStringBody? rest
  | _ => none

example : readTemplate? "`a\\`\r\n$\\\x7b`;".toList = some ("a`\n$\x7b".toList, [';']) := by
  decide +kernel

example : readTemplate? "`$\x7ba\x7d`".toList = none := by decide +kernel

example : readString? "\"\\u\x7b41\x7d\\x42\\\\\";".toList = some ("AB\\".toList, [';']) := by
  decide +kernel

end TypedSql.Script
