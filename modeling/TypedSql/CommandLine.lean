import TypedSql.Generate
import TypedSql.Output.Files

/-!
The command line. The generator takes at most one plain argument, the method that the SQL compiler
calls. By default it reads a request from its input and answers on its output; flags let it read
another file or format, and write into a directory or check the files there.
-/

namespace TypedSql

structure Invocation where
  method : Option String := none
  request : Option String := none
  json : Bool := false
  out : Option String := none
  check : Bool := false
deriving DecidableEq

inductive Arguments where
  | run (invocation : Invocation)
  | help
  | misused
deriving DecidableEq

namespace Arguments

/-- Whether an argument stands for itself: it does not begin with a dash, or is only a dash. -/
def isPlain (argument : String) : Bool :=
  argument == "-" || argument.toList.head? != some '-'

def isValue (argument : String) : Bool :=
  argument != "" && isPlain argument

/-- The value that an argument gives to a flag after an equals sign. -/
def inlineValue? (flag argument : String) : Option String :=
  (Text.after? (flag ++ "=").toList argument.toList).map String.ofList

def setRequest (value : String) (invocation : Invocation) : Option Invocation :=
  if invocation.request.isSome ∨ value = "" then none
  else some { invocation with request := some value }

def setOut (value : String) (invocation : Invocation) : Option Invocation :=
  if invocation.out.isSome ∨ value = "" then none
  else some { invocation with out := some value }

def setMethod (value : String) (invocation : Invocation) : Option Invocation :=
  if invocation.method.isSome then none else some { invocation with method := some value }

/-- An argument that is complete in itself. -/
def readSingle? (argument : String) (invocation : Invocation) : Option Invocation :=
  if isPlain argument then setMethod argument invocation
  else if argument = "--json" then
    if invocation.json then none else some { invocation with json := true }
  else if argument = "--check" then
    if invocation.check then none else some { invocation with check := true }
  else
    match inlineValue? "--request" argument, inlineValue? "--out" argument with
    | some value, _ => setRequest value invocation
    | _, some value => setOut value invocation
    | none, none => none

def readPlain (invocation : Invocation) : List String → Arguments
  | [] => .run invocation
  | argument :: rest =>
    match setMethod argument invocation with
    | some invocation => readPlain invocation rest
    | none => .misused

/-- Arguments after those that gave the invocation so far. -/
def readFrom (invocation : Invocation) : List String → Arguments
  | [] => .run invocation
  | "--" :: rest => readPlain invocation rest
  | "--help" :: _ => .help
  | "-h" :: _ => .help
  | "--request" :: value :: rest =>
    if ¬ isValue value then .misused
    else
      match setRequest value invocation with
      | some invocation => readFrom invocation rest
      | none => .misused
  | "--out" :: value :: rest =>
    if ¬ isValue value then .misused
    else
      match setOut value invocation with
      | some invocation => readFrom invocation rest
      | none => .misused
  | argument :: rest =>
    match readSingle? argument invocation with
    | some invocation => readFrom invocation rest
    | none => .misused

/-- What arguments ask for. Checking needs a directory. -/
def read (arguments : List String) : Arguments :=
  match readFrom {} arguments with
  | .run invocation =>
    if invocation.check ∧ invocation.out = none then .misused else .run invocation
  | other => other

end Arguments

structure Outcome where
  exitCode : UInt8
  output : Bytes := []
  failure : Option Failure := none
  events : List Event := []
deriving DecidableEq

namespace Outcome

def misused : Outcome := { exitCode := 2 }

def failed (failure : Failure) (events : List Event) : Outcome :=
  { exitCode := 1, failure := some failure, events }

def succeeded (output : Bytes) (events : List Event) : Outcome :=
  { exitCode := 0, output, events }

end Outcome

def checkMethod (method : Option String) : Except Failure Unit :=
  match method with
  | none => .ok ()
  | some method =>
    if method = Generator.generateMethod then .ok () else .error ⟨.unknownMethod method, []⟩

namespace Invocation

variable {m : Type → Type} [Monad m]

def format (invocation : Invocation) : RequestFormat :=
  if invocation.json then .json else .protobuf

def mode (invocation : Invocation) : OutputMode :=
  if invocation.check then .check else .write

def readInput (fs : FileSystem m) (input : m Bytes) (invocation : Invocation) :
    m (Except Failure Bytes) := do
  match invocation.request with
  | none => return .ok (← input)
  | some path =>
    match ← fs.read path with
    | .ok bytes => return .ok bytes
    | .error error => return .error (Output.systemFailure (.readRequest path) error)

/-- Gives generated files away: into a directory, or as an answer on the output. -/
def deliver (fs : FileSystem m) (invocation : Invocation) (files : List GeneratedFile)
    (events : List Event) : m Outcome := do
  match invocation.out with
  | none => return .succeeded (Plugin.encodeResponse files) events
  | some directory =>
    match ← Output.handleFiles fs invocation.mode directory files with
    | .ok () => return .succeeded [] events
    | .error failure => return .failed failure events

def run (fs : FileSystem m) (input : m Bytes) (invocation : Invocation) : m Outcome := do
  match checkMethod invocation.method with
  | .error failure => return .failed failure []
  | .ok () =>
    match ← invocation.readInput fs input with
    | .error failure => return .failed failure []
    | .ok bytes =>
      let generated := generateFrom invocation.format bytes
      match generated.result with
      | .error failure => return .failed failure generated.events
      | .ok files => invocation.deliver fs files generated.events

end Invocation

def runArguments {m : Type → Type} [Monad m] (fs : FileSystem m) (input : m Bytes)
    (arguments : List String) : m Outcome :=
  match Arguments.read arguments with
  | .run invocation => invocation.run fs input
  | .help => return .succeeded [] []
  | .misused => return .misused

end TypedSql
