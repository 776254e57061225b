/-!
What a TypeScript type says about unions and arrays. A type is one operand or several with bars
between them, and the suffix of an array belongs to the operand before it, not to the whole union.
An operand is a name, a literal, or a type in brackets, with its type arguments and keys; what
stands in brackets or quotes is taken as it is. Types with other signs outside of brackets have no
reading here.
-/

namespace TypedSql.Script

inductive TypeSyntax where
  | operand (text : List Char)
  | indexed (object : TypeSyntax) (key : List Char)
  | array (element : TypeSyntax)
  | union (first last : TypeSyntax)
deriving DecidableEq

/-- The sign that ends what a bracket or a quote begins. -/
def closer? (c : Char) : Option Char :=
  if c = '(' then some ')'
  else if c = '[' then some ']'
  else if c = '\x7b' then some '\x7d'
  else if c = '<' then some '>'
  else if c = '"' ∨ c = '\'' then some c
  else none

def isNameChar (c : Char) : Bool :=
  c.isAlphanum || c == '_' || c == '$' || c == '.'

/-- Whether a word says something about the type after it and is no type itself. -/
def isTypeOperator (text : List Char) : Bool :=
  ["keyof", "unique", "readonly", "infer", "typeof"].any fun word => text == word.toList

/-- The member of a union that is being read. -/
inductive TypePart where
  | empty
  | name (text : List Char)
  | closed (type : TypeSyntax)
deriving DecidableEq

namespace TypePart

def type? : TypePart → Option TypeSyntax
  | empty => none
  | name text => if isTypeOperator text then none else some (.operand text)
  | closed type => some type

def extend (c : Char) : TypePart → Option TypePart
  | empty => some (.name [c])
  | name text => some (.name (text ++ [c]))
  | closed _ => none

/-- A blank ends a name, but the word for the type of a value belongs to the name of the value. -/
def endName : TypePart → Option TypePart
  | name text =>
    if text = "typeof".toList then some (name (text ++ [' ']))
    else if isTypeOperator text then none
    else some (closed (.operand text))
  | part => some part

/-- The type that brackets after a type make of it: an array if they are empty. -/
def suffixed (type : TypeSyntax) (brackets : List Char) : Option TypePart :=
  if brackets.head? ≠ some '[' then none
  else if (brackets.drop 1).dropLast.all (· == ' ') then some (closed (.array type))
  else some (closed (.indexed type brackets))

/-- A part with brackets after it. Type arguments belong to the name before them, and a file in
round brackets to the word before it. -/
def bracketed (brackets : List Char) : TypePart → Option TypePart
  | empty => if brackets.head? = some '<' then none else some (closed (.operand brackets))
  | name text =>
    if isTypeOperator text then none
    else if brackets.head? = some '<' then some (closed (.operand (text ++ brackets)))
    else if brackets.head? = some '(' ∧ text = "import".toList then some (name (text ++ brackets))
    else suffixed (.operand text) brackets
  | closed type => suffixed type brackets

end TypePart

/-- How far a type has been read. -/
structure TypeState where
  -- The union of the members before the last bar.
  union : Option TypeSyntax := none
  part : TypePart := .empty
  -- What stands in brackets or quotes so far, in reverse.
  inside : List Char := []
  -- The signs that end the brackets and quotes that are open, the innermost first.
  closers : List Char := []
deriving DecidableEq

namespace TypeState

def joined (state : TypeState) (member : TypeSyntax) : TypeSyntax :=
  match state.union with
  | none => member
  | some union => .union union member

/-- One more character in brackets or quotes, of which `closer` ends the innermost. -/
def stepInside (state : TypeState) (closer : Char) (outer : List Char) (c : Char) :
    Option TypeState :=
  let inside := c :: state.inside
  let quoted := closer == '"' || closer == '\''
  let arrow := c == '>' && state.inside.head? == some '='
  if c = closer ∧ arrow = false then
    if outer = [] then
      (state.part.bracketed inside.reverse).map fun part =>
        { state with part := part, inside := [], closers := [] }
    else some { state with inside := inside, closers := outer }
  else if quoted then
    if c = '\\' then none else some { state with inside := inside }
  else
    match closer? c with
    | some inner => some { state with inside := inside, closers := inner :: state.closers }
    | none =>
      if arrow = false ∧ (c == ')' || c == ']' || c == '\x7d' || c == '>') then none
      else some { state with inside := inside }

def stepOutside (state : TypeState) (c : Char) : Option TypeState :=
  if c = ' ' then state.part.endName.map fun part => { state with part := part }
  else if c = '|' then
    state.part.type?.map fun member =>
      { state with union := some (state.joined member), part := .empty }
  else if isNameChar c || (c == '-' && state.part == .empty) then
    (state.part.extend c).map fun part => { state with part := part }
  else (closer? c).map fun closer => { state with inside := [c], closers := [closer] }

def step (state : TypeState) (c : Char) : Option TypeState :=
  match state.closers with
  | [] => state.stepOutside c
  | closer :: outer => state.stepInside closer outer c

/-- The type that has been read, if nothing is open. -/
def type? (state : TypeState) : Option TypeSyntax :=
  if state.closers = [] then state.part.type?.map state.joined else none

end TypeState

def readType? (text : List Char) : Option TypeSyntax :=
  (text.foldlM TypeState.step {}).bind TypeState.type?

example : readType? "number | string[]".toList =
    some (.union (.operand "number".toList) (.array (.operand "string".toList))) := by
  decide +kernel

example : readType? "(number | string)[]".toList =
    some (.array (.operand "(number | string)".toList)) := by decide +kernel

example : readType? "Map<'a|b', () => void>['get'][]".toList =
    some (.array (.indexed (.operand "Map<'a|b', () => void>".toList) "['get']".toList)) := by
  decide +kernel

example : readType? "keyof Song".toList = none := by decide +kernel

example : readType? "readonly[]".toList = none := by decide +kernel

end TypedSql.Script
