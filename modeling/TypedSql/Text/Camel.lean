import TypedSql.Text.CaseMap

/-!
Names in mixed case. A database name is a sequence of words joined by underscores. Its Pascal form
capitalises the first character of every word and drops the underscores, its camel form makes the
first character small again. The rest of a word keeps its letters as they are.
-/

namespace TypedSql.Text

def capitalize : List Char → List Char
  | [] => []
  | c :: rest => capitals c ++ rest

def uncapitalize : List Char → List Char
  | [] => []
  | c :: rest => smalls c ++ rest

/-- The Pascal form of a list of characters. Empty words leave nothing. -/
def pascalChars (name : List Char) : List Char :=
  (name.splitOn '_').flatMap capitalize

/-- `display_name` becomes `DisplayName`. -/
def pascalCase (name : String) : String :=
  String.ofList (pascalChars name.toList)

/-- `display_name` becomes `displayName`. -/
def camelCase (name : String) : String :=
  String.ofList (uncapitalize (pascalChars name.toList))

example : pascalCase "display_name" = "DisplayName" := by decide +kernel
example : camelCase "_user__ID" = "userID" := by decide +kernel
example : camelCase "___" = "" := by decide +kernel

end TypedSql.Text
