/-!
What can be wrong with Protobuf bytes, and where: a fault names the fields it lies in.
-/

namespace TypedSql.Protobuf

inductive WireType where
  | varint
  | fixed64
  | lengthDelimited
  | startGroup
  | endGroup
  | fixed32
deriving DecidableEq

def WireType.code : WireType → Nat
  | .varint => 0
  | .fixed64 => 1
  | .lengthDelimited => 2
  | .startGroup => 3
  | .endGroup => 4
  | .fixed32 => 5

def WireType.ofCode? : Nat → Option WireType
  | 0 => some .varint
  | 1 => some .fixed64
  | 2 => some .lengthDelimited
  | 3 => some .startGroup
  | 4 => some .endGroup
  | 5 => some .fixed32
  | _ => none

@[simp] theorem WireType.ofCode?_code (wireType : WireType) :
    WireType.ofCode? wireType.code = some wireType := by
  cases wireType <;> rfl

theorem WireType.code_lt (wireType : WireType) : wireType.code < 8 := by
  cases wireType <;> decide

def WireType.name : WireType → String
  | .varint => "Varint"
  | .fixed64 => "SixtyFourBit"
  | .lengthDelimited => "LengthDelimited"
  | .startGroup => "StartGroup"
  | .endGroup => "EndGroup"
  | .fixed32 => "ThirtyTwoBit"

inductive Cause where
  | varint
  | key (value : Nat)
  | wireType (code : Nat)
  | tag
  | wrongWireType (actual expected : WireType)
  | underflow
  | notText
  | delimitedLength
  | endGroup
  | recursionLimit
deriving DecidableEq

def Cause.message : Cause → String
  | .varint => "invalid varint"
  | .key value => "invalid key value: " ++ toString value
  | .wireType code => "invalid wire type value: " ++ toString code
  | .tag => "invalid tag value: 0"
  | .wrongWireType actual expected =>
    "invalid wire type: " ++ actual.name ++ " (expected " ++ expected.name ++ ")"
  | .underflow => "buffer underflow"
  | .notText => "invalid string value: data is not UTF-8 encoded"
  | .delimitedLength => "delimited length exceeded"
  | .endGroup => "unexpected end group tag"
  | .recursionLimit => "recursion limit reached"

structure Place where
  message : String
  field : String
deriving DecidableEq

structure Fault where
  cause : Cause
  path : List Place := []
deriving DecidableEq

def Fault.within (fault : Fault) (place : Place) : Fault :=
  { fault with path := place :: fault.path }

/-- The places from the innermost outward, then the cause. -/
def Fault.message (fault : Fault) : String :=
  "failed to decode Protobuf message: " ++
    String.join (fault.path.reverse.map fun place =>
      place.message ++ "." ++ place.field ++ ": ") ++
    fault.cause.message

end TypedSql.Protobuf
