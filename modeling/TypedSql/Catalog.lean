/-!
The database as the SQL compiler describes it: schemas, their tables, and the columns of a table.
The same column type describes the parameters and result columns of a query.
-/

namespace TypedSql

structure Identifier where
  name : String
deriving DecidableEq

structure Column where
  name : String
  sqlType : String := ""
  notNull : Bool := false
  isSlice : Bool := false
  table : Option Identifier := none
  -- The table all of whose columns this entry stands for.
  embedTable : Option Identifier := none
deriving DecidableEq

/-- The embedded table. An identifier without a name embeds nothing. -/
def Column.embed? (column : Column) : Option Identifier :=
  column.embedTable.filter fun table => table.name != ""

structure Table where
  rel : Identifier
  columns : List Column := []
deriving DecidableEq

structure Schema where
  name : String := ""
  tables : List Table := []
deriving DecidableEq

structure Catalog where
  schemas : List Schema := []
deriving DecidableEq

def Catalog.tables (catalog : Catalog) : List Table :=
  catalog.schemas.flatMap Schema.tables

end TypedSql
