import TypedSql.Json.Value

/-!
Typed values as JSON, in both directions. A codec reads a value from a tree and writes it; a record
is described by its members, each of which says how to read itself into the record and how to write
itself from it.

A record is read from an object, in which unknown names are passed over and no known name may stand
twice, or from an array of its members in order, which may end early where the rest are optional.
-/

namespace TypedSql.Json

structure Codec (α : Type) where
  read? : Tree → Option α
  write : α → Value

def textCodec : Codec String where
  read?
    | .string pieces => textOfPieces? pieces
    | _ => none
  write := .string

def boolCodec : Codec Bool where
  read?
    | .bool value => some value
    | _ => none
  write := .bool

/-- A natural number of thirty-two bits, written as an integer. -/
def wordCodec : Codec UInt32 where
  read?
    | .number numeral => (numeral.below? UInt32.size).map UInt32.ofNat
    | _ => none
  write value := .number (.natural value.toNat)

def listCodec {α : Type} (codec : Codec α) : Codec (List α) where
  read?
    | .array items => items.mapM codec.read?
    | _ => none
  write values := .array (values.map codec.write)

/-- One member of a record of type `R`. It is left out where the record has nothing to write. -/
structure Member (R : Type) where
  name : String
  required : Bool
  read? : Tree → R → Option R
  write? : R → Option Value

section Members

variable {R α : Type}

def Member.field (name : String) (codec : Codec α) (get : R → α) (set : α → R → R) : Member R where
  name := name
  required := true
  read? tree record := (codec.read? tree).map (set · record)
  write? record := some (codec.write (get record))

/-- A member that may be missing and is written always. -/
def Member.defaulted (name : String) (codec : Codec α) (get : R → α) (set : α → R → R) : Member R :=
  { Member.field name codec get set with required := false }

/-- A member that may be missing or null, and is written only when it has a value. -/
def Member.optional (name : String) (codec : Codec α) (get : R → Option α)
    (set : Option α → R → R) : Member R where
  name := name
  required := false
  read?
    | .null, record => some (set none record)
    | tree, record => (codec.read? tree).map fun value => set (some value) record
  write? record := (get record).map codec.write

end Members

/-- A record: its value before any member is read, and its members in order. -/
structure Record (R : Type) where
  blank : R
  members : List (Member R)

namespace Record

variable {R : Type}

/-- Reads the members of an object into a record. `seen` holds the known names read so far. -/
def readObject? (record : Record R) (seen : List String) (value : R) :
    List (List Piece × Tree) → Option R
  | [] =>
    if record.members.all fun m => !m.required || seen.contains m.name then some value else none
  | (name, tree) :: rest =>
    match textOfPieces? name with
    | none => none
    | some name =>
      match record.members.find? fun m => m.name == name with
      | none => record.readObject? seen value rest
      | some m =>
        if seen.contains name then none
        else
          match m.read? tree value with
          | none => none
          | some value => record.readObject? (name :: seen) value rest

/-- Reads the items of an array into the members of a record, in order. -/
def readArray? (value : R) : List (Member R) → List Tree → Option R
  | members, [] => if members.all fun m => !m.required then some value else none
  | [], _ :: _ => none
  | m :: members, tree :: rest =>
    match m.read? tree value with
    | none => none
    | some value => readArray? value members rest

def codec (record : Record R) : Codec R where
  read?
    | .object members => record.readObject? [] record.blank members
    | .array items => readArray? record.blank record.members items
    | _ => none
  write value :=
    .object (record.members.filterMap fun m =>
      (m.write? value).map fun written => (m.name, written))

def readBytes? (record : Record R) (bytes : Bytes) : Option R :=
  (parse? bytes).bind record.codec.read?

def writeText (record : Record R) (value : R) : String :=
  (record.codec.write value).text

end Record

end TypedSql.Json
