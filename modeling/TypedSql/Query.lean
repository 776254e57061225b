import TypedSql.Catalog
import TypedSql.Text.Blank

/-!
A query as the SQL compiler hands it over: its text, its command, its parameters and the columns of
its result.
-/

namespace TypedSql

/-- What a query gives back: nothing, at most one row, or any number of rows. -/
inductive Command where
  | exec
  | one
  | many
deriving DecidableEq

def Command.keyword : Command → String
  | .exec => ":exec"
  | .one => ":one"
  | .many => ":many"

def Command.ofKeyword? (keyword : String) : Option Command :=
  if keyword = ":exec" then some .exec
  else if keyword = ":one" then some .one
  else if keyword = ":many" then some .many
  else none

/-- The command of a keyword with blanks around it. -/
def Command.read? (text : String) : Option Command :=
  Command.ofKeyword? (Text.trim text)

@[simp] theorem Command.ofKeyword?_keyword (command : Command) :
    Command.ofKeyword? command.keyword = some command := by
  cases command <;> rfl

structure Param where
  number : UInt32
  column : Column
deriving DecidableEq

structure Query where
  name : String
  command : Command
  text : String
  params : List Param := []
  columns : List Column := []
deriving DecidableEq

def Query.embeds (query : Query) : List Identifier :=
  query.columns.filterMap Column.embed?

def Query.hasSlice (query : Query) : Bool :=
  query.params.any fun param => param.column.isSlice

end TypedSql
