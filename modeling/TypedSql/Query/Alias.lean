import TypedSql.Catalog.Lookup
import TypedSql.Query.Names
import TypedSql.Text.Distinct
import TypedSql.Text.Search
import TypedSql.Trace

/-!
Aliases for embedded tables. Where a query embeds a table `t`, the compiler has put the list
`t.a, t.b` of its columns into the text. Columns of one name in two tables would then hide each
other in the result, so the first occurrence of the list becomes `t.a AS t_a, t.b AS t_b`. The list
is replaced as a whole, and every embedded table is treated once, in the order of the columns.
-/

namespace TypedSql.Query

def embeddedTable (catalog : Catalog) (query : Query) (embed : Identifier) : Except Cause Table :=
  match catalog.table? embed with
  | some table => .ok table
  | none => .error (.embedTableMissing query.name embed.name)

def reference (embed : Identifier) (column : Column) : String :=
  embed.name ++ "." ++ column.name

def aliased (embed : Identifier) (column : Column) : String :=
  reference embed column ++ " AS " ++ column.embeddedName embed

/-- The list that the compiler puts in place of an embed. -/
def referenceList (embed : Identifier) (columns : List Column) : String :=
  String.intercalate ", " (columns.map (reference embed))

def aliasedList (embed : Identifier) (columns : List Column) : String :=
  String.intercalate ", " (columns.map (aliased embed))

/-- The text with aliases for one embed. A table without columns leaves no list in the text. -/
def aliasEmbed (catalog : Catalog) (query : Query) (text : List Char) (embed : Identifier) :
    Traced (List Char) :=
  match embeddedTable catalog query embed with
  | .error cause => .fail cause
  | .ok table =>
    if table.columns = [] then .done text
    else
      let list := referenceList embed table.columns
      match Text.replaceFirst? list.toList (aliasedList embed table.columns).toList text with
      | none => .fail (.embedColumnsNotFound query.name list embed.name)
      | some text => ⟨[.embedAliased query.name embed.name], .ok text⟩

def distinctEmbeds (query : Query) : List Identifier :=
  Text.firstOccurrences [] query.embeds

def aliasAll (catalog : Catalog) (query : Query) : List Identifier → List Char → Traced (List Char)
  | [], text => .done text
  | embed :: rest, text => do
    let text ← aliasEmbed catalog query text embed
    aliasAll catalog query rest text

/-- The text with aliases for every embedded table. -/
def aliasEmbeds (catalog : Catalog) (query : Query) : Traced String := do
  let text ← aliasAll catalog query query.distinctEmbeds query.text.toList
  return String.ofList text

end TypedSql.Query
