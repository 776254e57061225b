/-!
Brackets of a script. A script is nested if every round, square or curly bracket in it is closed by
its partner, with nested script between the two. What stands in a literal, from a quote to the next
such quote without a backslash before it, is no script. Comments are: brackets in them count too.
-/

namespace TypedSql.Script

def partner? (c : Char) : Option Char :=
  if c = '(' then some ')'
  else if c = '[' then some ']'
  else if c = '\x7b' then some '\x7d'
  else none

def isClosing (c : Char) : Bool :=
  c == ')' || c == ']' || c == '\x7d'

/-- Whether a character begins a string or a template. -/
def isQuote (c : Char) : Bool :=
  c == '"' || c == '\'' || c == '\x60'

def isPlain (c : Char) : Bool :=
  (partner? c).isNone && !isClosing c && !isQuote c

/-- What can stand in a literal between its quotes. -/
inductive LiteralBody (quote : Char) : List Char → Prop where
  | nil : LiteralBody quote []
  | plain {c : Char} {rest : List Char} : c ≠ '\\' → c ≠ quote → LiteralBody quote rest →
      LiteralBody quote (c :: rest)
  | escaped {c : Char} {rest : List Char} : LiteralBody quote rest →
      LiteralBody quote ('\\' :: c :: rest)

inductive Nested : List Char → Prop where
  | nil : Nested []
  | plain {c : Char} {rest : List Char} : isPlain c = true → Nested rest → Nested (c :: rest)
  | brackets {opening closing : Char} {inside rest : List Char} : partner? opening = some closing →
      Nested inside → Nested rest → Nested (opening :: (inside ++ closing :: rest))
  | literal {quote : Char} {body rest : List Char} : isQuote quote = true →
      LiteralBody quote body → Nested rest → Nested (quote :: (body ++ quote :: rest))

inductive Place where
  | code
  | literal (quote : Char)
  | escape (quote : Char)
deriving DecidableEq

/-- How far a script has been read: what closes the brackets that are open, the innermost first. -/
structure Reading where
  closers : List Char
  place : Place
deriving DecidableEq

namespace Reading

def close (closers : List Char) (c : Char) : Option Reading :=
  match closers with
  | [] => none
  | closer :: outer => if c = closer then some ⟨outer, .code⟩ else none

def stepCode (closers : List Char) (c : Char) : Option Reading :=
  if isQuote c then some ⟨closers, .literal c⟩
  else
    match partner? c with
    | some closer => some ⟨closer :: closers, .code⟩
    | none => if isClosing c then close closers c else some ⟨closers, .code⟩

def step (reading : Reading) (c : Char) : Option Reading :=
  match reading.place with
  | .code => stepCode reading.closers c
  | .literal quote =>
    some ⟨reading.closers,
      if c = '\\' then .escape quote else if c = quote then .code else .literal quote⟩
  | .escape quote => some ⟨reading.closers, .literal quote⟩

/-- The reading after some more text, or nothing where a bracket closes what it did not open. -/
def after? (reading : Reading) (text : List Char) : Option Reading :=
  text.foldlM step reading

end Reading

end TypedSql.Script
