import Std.Data.TreeMap

/-!
Lists of named values of which only the last of each name counts, in the order of their names.
-/

namespace TypedSql.Text

/-- The last value of every name, by increasing names. -/
def lastByName {α : Type} (pairs : List (String × α)) : List (String × α) :=
  (Std.TreeMap.ofList pairs compare).toList

example : lastByName [("b", 1), ("a", 2), ("b", 3)] = [("a", 2), ("b", 3)] := by decide +kernel

end TypedSql.Text
