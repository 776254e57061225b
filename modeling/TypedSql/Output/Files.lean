import TypedSql.Output.FileSystem
import TypedSql.Request

/-!
Generated files in a directory. Writing creates the directory and puts every file into it; checking
compares the files that are there with the generated ones and changes nothing. Both take the files
in order and stop at the first that fails, and both refuse a name that could lead elsewhere.
-/

namespace TypedSql

inductive OutputMode where
  | write
  | check
deriving DecidableEq

namespace Output

variable {m : Type → Type} [Monad m]

def path (directory : String) (file : GeneratedFile) : Except Failure String :=
  if Path.isPlainName file.name then .ok (Path.join directory file.name)
  else .error ⟨.notPlainName file.name, []⟩

def systemFailure (activity : Activity) (error : SystemError) : Failure :=
  ⟨.system error, [activity]⟩

def checkFile (fs : FileSystem m) (path : String) (file : GeneratedFile) :
    m (Except Failure Unit) := do
  match ← fs.read path with
  | .error error => return .error (systemFailure (.readOutput path) error)
  | .ok existing =>
    if existing = file.bytes then return .ok ()
    return .error ⟨.outputDiffers path (Sha256.hexDigest existing) file.digest, []⟩

/-- Writes a file, and before that the directories around it. -/
def writeFile (fs : FileSystem m) (path : String) (file : GeneratedFile) :
    m (Except Failure Unit) := do
  let parent := (Path.parents path).head?.getD ""
  match ← fs.createDirectories parent with
  | .error error => return .error (systemFailure (.createDirectory parent) error)
  | .ok () =>
    match ← fs.write path file.bytes with
    | .error error => return .error (systemFailure (.writeOutput path) error)
    | .ok () => return .ok ()

def handleFile (fs : FileSystem m) (mode : OutputMode) (directory : String) (file : GeneratedFile) :
    m (Except Failure Unit) :=
  match path directory file with
  | .error failure => return .error failure
  | .ok path =>
    match mode with
    | .check => checkFile fs path file
    | .write => writeFile fs path file

/-- Writes or checks files in a directory, in order, up to the first failure. -/
def handleFiles (fs : FileSystem m) (mode : OutputMode) (directory : String) :
    List GeneratedFile → m (Except Failure Unit)
  | [] => return .ok ()
  | file :: rest => do
    match ← handleFile fs mode directory file with
    | .error failure => return .error failure
    | .ok () => handleFiles fs mode directory rest

end Output

end TypedSql
