import TypedSql.Failure

/-!
Computations that report what they do. A traced computation has a list of events, in order, and
either a value or a failure; after a failure nothing more happens, but the events up to it remain.
-/

namespace TypedSql

inductive Level where
  | debug
  | info
  | warn
deriving DecidableEq

def Level.name : Level → String
  | .debug => "DEBUG"
  | .info => "INFO"
  | .warn => "WARN"

inductive Event where
  | unknownOption (name : String)
  | unknownType (sqlType : String)
  | embedAliased (query table : String)
  | queryBound (query command : String) (params raw : Bool) (slices : Nat)
  | fileGenerated (name : String) (size : Nat) (digest : String)
deriving DecidableEq

namespace Event

def level : Event → Level
  | unknownOption _ => .warn
  | unknownType _ => .warn
  | embedAliased .. => .debug
  | queryBound .. => .debug
  | fileGenerated .. => .info

def message : Event → String
  | unknownOption name => "ignoring unknown plugin option " ++ Text.quoted name
  | unknownType sqlType =>
    "no TypeScript type for database type " ++ Text.quoted sqlType ++ "; using " ++
      Text.quoted Generator.fallbackType
  | embedAliased query table => "query " ++ query ++ ": aliased embedded table " ++ table
  | queryBound query command params raw slices =>
    "query " ++ query ++ " " ++ command ++ ": params=" ++ toString params ++ " raw=" ++
      toString raw ++ " slices=" ++ toString slices
  | fileGenerated name size digest =>
    "generated " ++ name ++ " (" ++ toString size ++ " bytes, sha256 " ++ digest ++ ")"

end Event

/-- A result and the events on the way to it. -/
structure Traced (α : Type) where
  events : List Event
  result : Except Failure α

namespace Traced

variable {α β : Type}

def done (value : α) : Traced α := ⟨[], .ok value⟩

def fail (cause : Cause) : Traced α := ⟨[], .error ⟨cause, []⟩⟩

def report (event : Event) : Traced Unit := ⟨[event], .ok ()⟩

def reports (events : List Event) : Traced Unit := ⟨events, .ok ()⟩

def andThen (first : Traced α) (next : α → Traced β) : Traced β :=
  match first.result with
  | .error failure => ⟨first.events, .error failure⟩
  | .ok value =>
    let second := next value
    ⟨first.events ++ second.events, second.result⟩

instance : Monad Traced where
  pure := done
  bind := andThen

def during (activity : Activity) (computation : Traced α) : Traced α :=
  { computation with result := computation.result.mapError fun failure => failure.during activity }

theorem result_andThen (first : Traced α) (next : α → Traced β) :
    (first.andThen next).result = first.result.bind fun value => (next value).result := by
  unfold andThen
  cases first.result <;> rfl

end Traced

end TypedSql
