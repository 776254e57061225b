import TypedSql.Output.SystemError
import TypedSql.Text.Utf8

/-!
A tree of files and directories in memory, and the operations of an operating system on it. The
working directory is the root of the tree, and there are no links. A path is followed piece by
piece; every piece but the last has to be a directory that exists.
-/

namespace TypedSql

/-- Names from the root of a tree. The root itself has none. -/
abbrev Location := List String

inductive Node where
  | file (contents : Bytes)
  | directory
deriving DecidableEq

structure FileTree where
  entries : List (Location × Node)
deriving DecidableEq

namespace FileTree

def empty : FileTree := ⟨[]⟩

/-- What stands at a location. The root is a directory. -/
def node? (tree : FileTree) (location : Location) : Option Node :=
  if location = [] then some .directory else tree.entries.lookup location

def putEntry (location : Location) (node : Node) : List (Location × Node) → List (Location × Node)
  | [] => [(location, node)]
  | entry :: rest =>
    if entry.1 = location then (location, node) :: rest else entry :: putEntry location node rest

def insert (tree : FileTree) (location : Location) (node : Node) : FileTree :=
  ⟨putEntry location node tree.entries⟩

private theorem lookup_putEntry (location other : Location) (node : Node)
    (entries : List (Location × Node)) :
    (putEntry location node entries).lookup other =
      if other = location then some node else entries.lookup other := by
  induction entries with
  | nil =>
      by_cases h : other = location
      · simp [putEntry, h]
      · have different : (other == location) = false := by simpa using h
        simp only [putEntry, List.lookup_cons, different, List.lookup_nil, if_neg h]
  | cons entry rest ih =>
      obtain ⟨place, found⟩ := entry
      rw [putEntry]
      by_cases same : place = location
      · subst same
        by_cases h : other = place
        · simp [h]
        · have different : (other == place) = false := by simpa using h
          simp only [if_true, List.lookup_cons, different, if_neg h]
      · rw [if_neg same]
        by_cases h : other = place
        · subst h
          simp [same]
        · have different : (other == place) = false := by simpa using h
          simp only [List.lookup_cons, different, ih]

/-- Putting a node changes what stands at its location and nothing else. -/
theorem node?_insert (tree : FileTree) {location : Location} (other : Location) (node : Node)
    (h : location ≠ []) :
    (tree.insert location node).node? other =
      if other = location then some node else tree.node? other := by
  unfold node? insert
  by_cases hroot : other = []
  · subst hroot
    simp [Ne.symm h]
  · simp only [if_neg hroot, lookup_putEntry]

def erase (tree : FileTree) (location : Location) : FileTree :=
  ⟨tree.entries.filter fun entry => entry.1 != location⟩

def nameLimit : Nat := 255

/-- One more than the bytes that a path may have. -/
def pathLimit : Nat := 4096

def checkName (name : List Char) : Except SystemError Unit :=
  if nameLimit < (String.ofList name).utf8ByteSize then .error .nameTooLong else .ok ()

/-- The location after one more piece, which has to exist. -/
def step (tree : FileTree) (location : Location) (piece : List Char) :
    Except SystemError Location :=
  if tree.node? location ≠ some .directory then .error .notDirectory
  else if piece = [] ∨ piece = ['.'] then .ok location
  else if piece = ['.', '.'] then .ok location.dropLast
  else
    match checkName piece with
    | .error error => .error error
    | .ok () =>
      let next := location ++ [String.ofList piece]
      if (tree.node? next).isSome then .ok next else .error .notFound

/-- The pieces of a path that the system accepts at all. -/
def pieces (path : String) : Except SystemError (List (List Char)) :=
  if path.toList.contains '\x00' then .error .nulInName
  else if path = "" then .error .notFound
  else if pathLimit ≤ path.utf8ByteSize then .error .nameTooLong
  else .ok (path.toList.splitOn '/')

def follow (tree : FileTree) (path : String) : Except SystemError Location := do
  (← pieces path).foldlM tree.step []

/-- The place of something that may not exist yet. -/
structure Place where
  parent : Location
  name : List Char
  trailing : Bool
deriving DecidableEq

/-- The place that a path names: its last piece, in the directory that the others lead to. -/
def place (tree : FileTree) (path : String) : Except SystemError Place := do
  let pieces ← pieces path
  match pieces.reverse.dropWhile (· == []) with
  | [] => return ⟨[], ['.'], true⟩
  | name :: before =>
    let parent ← before.reverse.foldlM tree.step []
    if tree.node? parent ≠ some .directory then throw .notDirectory
    return ⟨parent, name, pieces.getLast? == some []⟩

/-- Whether a last piece is a dot or two dots, which always exist. -/
def isDots (name : List Char) : Bool :=
  name == ['.'] || name == ['.', '.']

def Place.location (place : Place) : Location :=
  place.parent ++ [String.ofList place.name]

def read (tree : FileTree) (path : String) : Except SystemError Bytes := do
  match tree.node? (← tree.follow path) with
  | some (.file contents) => return contents
  | some .directory => throw .isDirectory
  | none => throw .notFound

def isDirectory (tree : FileTree) (path : String) : Bool :=
  match tree.follow path with
  | .ok location => tree.node? location == some .directory
  | .error _ => false

def makeDirectory (tree : FileTree) (path : String) : Except SystemError FileTree := do
  let place ← tree.place path
  if isDots place.name then throw .alreadyExists
  checkName place.name
  if (tree.node? place.location).isSome then throw .alreadyExists
  return tree.insert place.location .directory

def write (tree : FileTree) (path : String) (contents : Bytes) : Except SystemError FileTree := do
  let place ← tree.place path
  if isDots place.name ∨ place.trailing then throw .isDirectory
  checkName place.name
  if tree.node? place.location = some .directory then throw .isDirectory
  return tree.insert place.location (.file contents)

end FileTree

end TypedSql
