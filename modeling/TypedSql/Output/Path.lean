/-!
Paths as texts. Slashes separate the pieces of a path; an empty piece, and a dot that is not the
first piece, mean nothing. A plain file name has one piece with a meaning, and this is a name.
-/

namespace TypedSql.Path

/-- What a piece of a path means. A dot means something only at the beginning. -/
inductive Component where
  | root
  | current
  | parent
  | normal (name : List Char)
deriving DecidableEq

/-- Whether a piece that is not the first means nothing. -/
def isIdle (piece : List Char) : Bool :=
  piece == [] || piece == ['.']

def component? (piece : List Char) : Option Component :=
  if isIdle piece then none
  else if piece = ['.', '.'] then some .parent
  else some (.normal piece)

def components (path : String) : List Component :=
  match path.toList.splitOn '/' with
  | [] => []
  | first :: rest =>
    (if first = [] then (if rest = [] then [] else [.root])
      else if first = ['.'] then [.current]
      else (component? first).toList) ++
    rest.filterMap component?

/-- Whether a path is a plain file name. -/
def isPlainName (path : String) : Bool :=
  match components path with
  | [.normal _] => true
  | _ => false

def join (directory name : String) : String :=
  if directory = "" then name
  else if directory.toList.getLast? = some '/' then directory ++ name
  else directory ++ "/" ++ name

/-- The text of pieces, the first of which is given apart. Two empty pieces are the root. -/
def ofPieces (first : List Char) (rest : List (List Char)) : String :=
  if first = [] ∧ rest = [] then "/"
  else String.ofList (['/'].intercalate (first :: rest))

/-- The directories around a path, the innermost first, for its first piece and its other pieces in
reverse. The last piece with a meaning is left out each time. -/
def parentsOf (first : List Char) : List (List Char) → List String
  | [] => if first = [] then [] else [""]
  | piece :: before =>
    if isIdle piece then parentsOf first before
    else ofPieces first (before.dropWhile isIdle).reverse :: parentsOf first before

/-- The directories around a path, the innermost first. -/
def parents (path : String) : List String :=
  match path.toList.splitOn '/' with
  | [] => []
  | first :: rest => parentsOf first rest.reverse

example : isPlainName "a/." = true := by decide
example : isPlainName "../a" = false := by decide
example : parents "a//b/./c/" = ["a//b", "a", ""] := by decide
example : parents "/a" = ["/"] := by decide

end TypedSql.Path
