import TypedSql.Request
import TypedSql.Text.CaseMap

/-!
TypeScript types of database types. The letter case of a database type does not matter. Types given
by users come before the built-in ones, and of several for one database type the last counts.
-/

namespace TypedSql

/-- Types by the name of a database type in capitals. Of entries with one name the first counts. -/
structure TypeTable where
  entries : List (String × String)
deriving DecidableEq

namespace TypeTable

/-- The types that the database client gives back. -/
def builtIn : List (String × String) := [
  ("NULL", "null"),
  ("REAL", "number"),
  ("INTEGER", "number"),
  ("TEXT", "string"),
  ("DATETIME", "string"),
  ("JSON", "string"),
  ("BLOB", "ArrayBuffer")]

def ofOverrides (overrides : List TypeOverride) : TypeTable where
  entries :=
    (overrides.map fun o => (Text.upperCase o.sqlType, o.codeType)).reverse ++ builtIn

def type? (types : TypeTable) (sqlType : String) : Option String :=
  types.entries.lookup (Text.upperCase sqlType)

def knows (types : TypeTable) (sqlType : String) : Bool :=
  (types.type? sqlType).isSome

def scalar (types : TypeTable) (sqlType : String) : String :=
  (types.type? sqlType).getD Generator.fallbackType

/-- What is added to the type of a value that may be null. -/
def orNull (nullable : Bool) : String :=
  if nullable then " | null" else ""

/-- The type of a column: of one value, as a list if it takes one, or null if it may be. -/
def column (types : TypeTable) (column : Column) : String :=
  types.scalar column.sqlType ++ (if column.isSlice then "[]" else "") ++ orNull (!column.notNull)

end TypeTable

end TypedSql
