import TypedSql.CommandLine

/-!
The program: the command line on the files of the machine. Failures and warnings go to the error
stream, and everything else is decided by `runArguments`.
-/

namespace TypedSql.Disk

/-- The number of an error. Some libraries give the number with the opposite sign. -/
def errorNumber (code : UInt32) : Nat :=
  if code < 0x80000000 then code.toNat else (0 - code).toNat

def codeAndText : IO.Error → Nat × String
  | .alreadyExists _ code text => (errorNumber code, text)
  | .otherError code text => (errorNumber code, text)
  | .resourceBusy code text => (errorNumber code, text)
  | .resourceVanished code text => (errorNumber code, text)
  | .unsupportedOperation code text => (errorNumber code, text)
  | .hardwareFault code text => (errorNumber code, text)
  | .unsatisfiedConstraints code text => (errorNumber code, text)
  | .illegalOperation code text => (errorNumber code, text)
  | .protocolError code text => (errorNumber code, text)
  | .timeExpired code text => (errorNumber code, text)
  | .interrupted _ code text => (errorNumber code, text)
  | .noFileOrDirectory _ code text => (errorNumber code, text)
  | .invalidArgument _ code text => (errorNumber code, text)
  | .permissionDenied _ code text => (errorNumber code, text)
  | .resourceExhausted _ code text => (errorNumber code, text)
  | .inappropriateType _ code text => (errorNumber code, text)
  | .noSuchThing _ code text => (errorNumber code, text)
  | .unexpectedEof => (0, "unexpected end of file")
  | .userError text => (0, text)

/-- An error with one of the numbers that are known by name, or its text. -/
def systemError (error : IO.Error) : SystemError :=
  match codeAndText error with
  | (2, _) => .notFound
  | (17, _) => .alreadyExists
  | (20, _) => .notDirectory
  | (21, _) => .isDirectory
  | (36, _) => .nameTooLong
  | (code, text) => .other (text ++ " (os error " ++ toString code ++ ")")

/-- Runs an operation on a path that the operating system can be asked about. -/
def attempt {α : Type} (path : String) (operation : IO α) : IO (Except SystemError α) := do
  if path.toList.contains '\x00' then return .error .nulInName
  try return .ok (← operation)
  catch error => return .error (systemError error)

def fileSystem : FileSystem IO where
  read path := attempt path do return (← IO.FS.readBinFile path).data.toList
  isDirectory path := do
    match ← attempt path (IO.FS.realPath path) with
    | .ok resolved => resolved.isDir
    | .error _ => return false
  makeDirectory path := attempt path (IO.FS.createDir path)
  write path contents := attempt path (IO.FS.writeBinFile path ⟨contents.toArray⟩)

def readInput : IO Bytes := do
  return (← (← IO.getStdin).readBinToEnd).data.toList

end TypedSql.Disk

open TypedSql in
/-- Warnings come before the failure on the error stream. -/
def main (arguments : List String) : IO UInt32 := do
  let outcome ← runArguments Disk.fileSystem Disk.readInput arguments
  for event in outcome.events do
    if event.level = .warn then
      IO.eprintln ("[" ++ event.level.name ++ "] " ++ event.message)
  if let some failure := outcome.failure then
    IO.eprintln failure.message
  let output ← IO.getStdout
  output.write ⟨outcome.output.toArray⟩
  output.flush
  return outcome.exitCode.toUInt32
