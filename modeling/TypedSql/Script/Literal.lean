import TypedSql.Text.Search

/-!
String and template literals of TypeScript. In a template, a backslash is put before backslashes,
backquotes, and a dollar sign that an opening brace follows; in a string, before backslashes and
quotes.
-/

namespace TypedSql.Script

def templateChars : List Char → List Char
  | [] => []
  | '$' :: '\x7b' :: rest => '\\' :: '$' :: '\x7b' :: templateChars rest
  | c :: rest =>
    if c = '\\' ∨ c = '\x60' then '\\' :: c :: templateChars rest else c :: templateChars rest

def templateBody (text : String) : String :=
  String.ofList (templateChars text.toList)

def stringChar (c : Char) : List Char :=
  if c = '\\' ∨ c = '"' then ['\\', c] else [c]

/-- A text as a string in double quotes. -/
def stringLiteral (text : String) : String :=
  String.ofList ('"' :: (text.toList.flatMap stringChar ++ ['"']))

example : templateBody "`$\x7b$1\\" = "\\`\\$\x7b$1\\\\" := by decide +kernel
example : stringLiteral "a\"b" = "\"a\\\"b\"" := by decide +kernel

end TypedSql.Script
