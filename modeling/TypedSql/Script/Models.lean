import TypedSql.Catalog.TypeTable
import TypedSql.Query.Names
import TypedSql.Script.Declaration
import TypedSql.Script.Layout

/-!
The file of model types: for every table of the catalog, in order, an exported type with a property
for every column.
-/

namespace TypedSql.Script

def TypeDeclaration.steps (declaration : TypeDeclaration) : List Step :=
  Step.block
    ((if declaration.exported then "export type " else "type ") ++ declaration.name ++ " = \x7b")
    (declaration.fields.map fun field => .line (field.name ++ ": " ++ field.type ++ ";"))
    "\x7d;" ++ [Step.blank]

def modelField (types : TypeTable) (column : Column) : Field :=
  ⟨column.property, types.column column⟩

def model (types : TypeTable) (table : Table) : TypeDeclaration :=
  ⟨table.rel.modelName, true, table.columns.map (modelField types)⟩

def models (catalog : Catalog) (types : TypeTable) : List TypeDeclaration :=
  catalog.tables.map (model types)

def modelsText (catalog : Catalog) (types : TypeTable) (banner : String) : String :=
  Step.render
    (.verbatim banner :: Step.blank :: (models catalog types).flatMap TypeDeclaration.steps)

end TypedSql.Script
