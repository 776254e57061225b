import TypedSql.Query
import TypedSql.Text.Camel

/-!
Names in the generated files. Types have the Pascal form and properties, functions and constants the
camel form of a database name; the types of a query keep the query's own spelling.
-/

namespace TypedSql

def Identifier.modelName (table : Identifier) : String :=
  Text.pascalCase table.name

def Column.property (column : Column) : String :=
  Text.camelCase column.name

/-- The name of a column of an embedded table, in the aliased text and in the raw row. -/
def Column.embeddedName (table : Identifier) (column : Column) : String :=
  table.name ++ "_" ++ column.name

namespace Query

def constantName (query : Query) : String :=
  Text.camelCase query.name ++ "Query"

def paramsTypeName (query : Query) : String :=
  query.name ++ "Params"

def rowTypeName (query : Query) : String :=
  query.name ++ "Row"

def rawRowTypeName (query : Query) : String :=
  "Raw" ++ query.name ++ "Row"

def functionName (query : Query) : String :=
  Text.camelCase query.name

end Query

end TypedSql
