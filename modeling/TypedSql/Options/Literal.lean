import TypedSql.Text.Hexadecimal

/-!
String literals in which options may be written: raw in backquotes, or in double quotes with
escapes. A raw literal loses its carriage returns. A quoted literal stays on one line, and its
escapes name a character by a letter or by two, four or eight hexadecimal digits.
-/

namespace TypedSql.Literal

def simpleEscape? (c : Char) : Option Char :=
  if c = '\\' ∨ c = '"' ∨ c = '\'' then some c
  else if c = 'n' then some '\n'
  else if c = 'r' then some '\r'
  else if c = 't' then some '\t'
  else if c = 'a' then some '\x07'
  else if c = 'b' then some '\x08'
  else if c = 'f' then some '\x0c'
  else if c = 'v' then some '\x0b'
  else none

def escapeDigits? (c : Char) : Option Nat :=
  if c = 'x' then some 2
  else if c = 'u' then some 4
  else if c = 'U' then some 8
  else none

def readItem? : List Char → Option (Char × List Char)
  | [] => none
  | '\\' :: [] => none
  | '\\' :: letter :: rest =>
    match escapeDigits? letter with
    | some count =>
      let digits := rest.take count
      if digits.length < count then none
      else (Text.Hexadecimal.char? digits).map fun c => (c, rest.drop count)
    | none => (simpleEscape? letter).map fun c => (c, rest)
  | c :: rest => if c = '"' ∨ c = '\n' then none else some (c, rest)

theorem length_of_readItem? {text rest : List Char} {c : Char}
    (h : readItem? text = some (c, rest)) : rest.length < text.length := by
  unfold readItem? at h
  split at h
  · simp at h
  · simp at h
  · split at h
    · simp only at h
      split at h
      · simp at h
      · simp only [Option.map_eq_some_iff, Prod.mk.injEq] at h
        obtain ⟨_, _, _, rfl⟩ := h
        simp only [List.length_drop, List.length_cons]
        omega
    · simp only [Option.map_eq_some_iff, Prod.mk.injEq] at h
      obtain ⟨_, _, _, rfl⟩ := h
      simp only [List.length_cons]
      omega
  · split at h
    · simp at h
    · simp only [Option.some.injEq, Prod.mk.injEq] at h
      obtain ⟨_, rfl⟩ := h
      simp

/-- The characters up to the closing quote, which has to be the last character. Characters read
already are in reverse. -/
def readBody? (before text : List Char) : Option (List Char) :=
  if text = ['"'] then some before.reverse
  else
    match h : readItem? text with
    | some (c, rest) =>
      have := length_of_readItem? h
      readBody? (c :: before) rest
    | none => none
termination_by text.length

/-- The characters before a closing backquote, which has to be the only one. -/
def readRaw? (text : List Char) : Option (List Char) :=
  let body := text.takeWhile (· != '\x60')
  if text = body ++ ['\x60'] then some (body.filter (· != '\r')) else none

def unquote? (literal : String) : Option String :=
  match literal.toList with
  | [] => none
  | c :: rest =>
    if c = '\x60' then (readRaw? rest).map String.ofList
    else if c = '"' then (readBody? [] rest).map String.ofList
    else none

def quoteChar (c : Char) : List Char :=
  if c = '\\' then ['\\', '\\']
  else if c = '"' then ['\\', '"']
  else if c = '\n' then ['\\', 'n']
  else [c]

def quote (text : String) : String :=
  String.ofList ('"' :: (text.toList.flatMap quoteChar ++ ['"']))

end TypedSql.Literal
