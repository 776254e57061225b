import TypedSql.Output.FileTree
import TypedSql.Output.Path

/-!
Operations on files, for programs that do not care whether the files are in memory or on a disk.
-/

namespace TypedSql

/-- The operations that generated files need, in some monad. -/
structure FileSystem (m : Type → Type) where
  read : String → m (Except SystemError Bytes)
  isDirectory : String → m Bool
  makeDirectory : String → m (Except SystemError Unit)
  write : String → Bytes → m (Except SystemError Unit)

namespace FileSystem

variable {m : Type → Type} [Monad m]

/-- Forgives an error where the directory is there anyway. -/
def unlessDirectory (fs : FileSystem m) (path : String) (error : SystemError) :
    m (Except SystemError Unit) := do
  if ← fs.isDirectory path then return .ok () else return .error error

/-- Creates the first of some directories, each of which lies in the next one. Directories that
exist already are left alone. -/
def createChain (fs : FileSystem m) : List String → m (Except SystemError Unit)
  | [] => return .error (.other "failed to create whole tree")
  | path :: around =>
    if path = "" then return .ok ()
    else do
      match ← fs.makeDirectory path with
      | .ok () => return .ok ()
      | .error .notFound =>
        match ← fs.createChain around with
        | .error error => return .error error
        | .ok () =>
          match ← fs.makeDirectory path with
          | .ok () => return .ok ()
          | .error error => fs.unlessDirectory path error
      | .error error => fs.unlessDirectory path error

def createDirectories (fs : FileSystem m) (path : String) : m (Except SystemError Unit) :=
  fs.createChain (path :: Path.parents path)

end FileSystem

namespace FileTree

def change (result : FileTree → Except SystemError FileTree) :
    StateM FileTree (Except SystemError Unit) := fun tree =>
  match result tree with
  | .ok tree => (.ok (), tree)
  | .error error => (.error error, tree)

def fileSystem : FileSystem (StateM FileTree) where
  read path := return (← get).read path
  isDirectory path := return (← get).isDirectory path
  makeDirectory path := change fun tree => tree.makeDirectory path
  write path contents := change fun tree => tree.write path contents

end FileTree

end TypedSql
