import TypedSql.Catalog.TypeTable
import TypedSql.Query.Alias
import TypedSql.Script.Declaration

/-!
What the function of a query takes and gives back.

A query with parameters has a type for them. A query with rows has a public row type, in which every
column is a property and an embedded table is one object. The database gives back rows in which the
columns keep their database names and embedded tables lie flat; where that differs from the public
row, the query has a raw row type too, and a mapping from the one to the other.
-/

namespace TypedSql

open Script (Field TypeDeclaration)

/-- How a property of the public row is made from the raw row. -/
inductive Mapping where
  | scalar (property raw : String)
  | embed (property : String) (fields : List (String × String))
deriving DecidableEq

inductive Call where
  | first (row : String)
  | all (row : String)
  | run
deriving DecidableEq

def Call.row? : Call → Option String
  | .first row => some row
  | .all row => some row
  | .run => none

structure Signature where
  params : Option TypeDeclaration
  row : Option TypeDeclaration
  rawRow : Option TypeDeclaration
  returns : String
  call : Call
  -- Empty unless there is a raw row.
  mapping : List Mapping
  -- The model types that the row uses, in increasing order.
  models : List String
deriving DecidableEq

namespace Query

/-- The field of a parameter. The schema counts where it allows null and the query does not. -/
def paramField (catalog : Catalog) (types : TypeTable) (param : Param) : Field :=
  ⟨param.column.property,
    types.column param.column ++ TypeTable.orNull (catalog.widens param.column)⟩

def paramsType? (catalog : Catalog) (types : TypeTable) (query : Query) : Option TypeDeclaration :=
  if query.params = [] then none
  else some ⟨query.paramsTypeName, true, query.params.map (paramField catalog types)⟩

def rowField (types : TypeTable) (column : Column) : Field :=
  ⟨column.property,
    match column.embed? with
    | some table => table.modelName
    | none => types.column column⟩

def rowType (types : TypeTable) (query : Query) : TypeDeclaration :=
  ⟨query.rowTypeName, true, query.columns.map (rowField types)⟩

/-- Whether the public row differs from the row of the database. -/
def needsRaw (query : Query) : Bool :=
  query.columns.any fun column => column.property != column.name || column.embed?.isSome

/-- The raw columns of a result column, and how its property is made of them. -/
def rawColumn (catalog : Catalog) (types : TypeTable) (query : Query) (column : Column) :
    Except Cause (List Field × Mapping) :=
  match column.embed? with
  | none => .ok ([⟨column.name, types.column column⟩], .scalar column.property column.name)
  | some embed =>
    (embeddedTable catalog query embed).map fun table =>
      (table.columns.map fun c => ⟨c.embeddedName embed, types.column c⟩,
        .embed column.property (table.columns.map fun c => (c.property, c.embeddedName embed)))

def rawRow (catalog : Catalog) (types : TypeTable) (query : Query) :
    Except Cause (TypeDeclaration × List Mapping) :=
  (query.columns.mapM (rawColumn catalog types query)).map fun parts =>
    (⟨query.rawRowTypeName, false, parts.flatMap Prod.fst⟩, parts.map Prod.snd)

def execSignature (catalog : Catalog) (types : TypeTable) (query : Query) : Signature where
  params := query.paramsType? catalog types
  row := none
  rawRow := none
  returns := "D1Result"
  call := .run
  mapping := []
  models := []

/-- What a caller waits for, where the rows have the given public type. -/
def returnType (command : Command) (row : String) : String :=
  match command with
  | .exec => "D1Result"
  | .one => row ++ " | null"
  | .many => "D1Result<" ++ row ++ ">"

def rowCall (command : Command) (row : String) : Call :=
  match command with
  | .exec => .run
  | .one => .first (row ++ " | null")
  | .many => .all row

def rowSignature (catalog : Catalog) (types : TypeTable) (query : Query)
    (raw : Option TypeDeclaration) (mapping : List Mapping) : Signature where
  params := query.paramsType? catalog types
  row := some (query.rowType types)
  rawRow := raw
  returns := returnType query.command query.rowTypeName
  call := rowCall query.command ((raw.map TypeDeclaration.name).getD query.rowTypeName)
  mapping := mapping
  models := Text.sortedDistinct (query.embeds.map Identifier.modelName)

def signature (catalog : Catalog) (types : TypeTable) (query : Query) : Except Cause Signature :=
  match query.command with
  | .exec => .ok (query.execSignature catalog types)
  | _ =>
    if query.needsRaw then
      (query.rawRow catalog types).map fun (raw, mapping) =>
        query.rowSignature catalog types (some raw) mapping
    else .ok (query.rowSignature catalog types none [])

end Query

end TypedSql
