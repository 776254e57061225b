import TypedSql.Protobuf.Key

/-!
Messages. A message type lists its fields, and every field says how it is merged into a value of the
type and how it is written from one. Reading takes one field after another up to the end of the
message: a later scalar replaces an earlier one, a later submessage is merged into the earlier one,
and repeated fields collect. Writing takes the fields in the order of their tags and leaves out
scalars that have their default.
-/

namespace TypedSql.Protobuf

/-- A field of messages that are read into values of type `M`. It is merged after its key, with a
budget for the messages inside it. -/
structure Field (M : Type) where
  tag : Nat
  label : String
  merge : (budget : Nat) → WireType → M → Input → Except Fault (M × Input)
  encode : M → Bytes
  merge_shorter : ∀ {budget wireType value input merged rest},
    merge budget wireType value input = .ok (merged, rest) → rest.left < input.left

/-- The name of a message type, its value without any field, and its fields by increasing tags. -/
structure MessageType (M : Type) where
  name : String
  empty : M
  fields : List (Field M)

namespace MessageType

variable {M : Type}

def field? (type : MessageType M) (tag : Nat) : Option (Field M) :=
  type.fields.find? fun field => field.tag == tag

def encode (type : MessageType M) (value : M) : Bytes :=
  type.fields.flatMap fun field => field.encode value

/-- Merges the field after a key into a value. Unknown fields change nothing. -/
def mergeAfterKey (type : MessageType M) (budget : Nat) (value : M) (key : Key) (input : Input) :
    Except Fault (M × Input) :=
  match type.field? key.tag with
  | none =>
    match skipField budget key input with
    | .error cause => .error ⟨cause, []⟩
    | .ok rest => .ok (value, rest)
  | some field =>
    match field.merge budget key.wireType value input with
    | .error fault => .error (fault.within ⟨type.name, field.label⟩)
    | .ok merged => .ok merged

def mergeField (type : MessageType M) (budget : Nat) (value : M) (input : Input) :
    Except Fault (M × Input) :=
  match readKey input with
  | .error cause => .error ⟨cause, []⟩
  | .ok (key, rest) => type.mergeAfterKey budget value key rest

theorem mergeAfterKey_le {type : MessageType M} {budget : Nat} {value merged : M} {key : Key}
    {input rest : Input} (h : type.mergeAfterKey budget value key input = .ok (merged, rest)) :
    rest.left ≤ input.left := by
  unfold mergeAfterKey at h
  split at h
  · split at h
    · simp at h
    · next skipped =>
        simp only [Except.ok.injEq, Prod.mk.injEq] at h
        obtain ⟨_, rfl⟩ := h
        exact skipField_le skipped
  · next field _ =>
      split at h
      · simp at h
      · next found =>
          simp only [Except.ok.injEq] at h
          subst h
          exact Nat.le_of_lt (field.merge_shorter found)

theorem mergeField_shorter {type : MessageType M} {budget : Nat} {value merged : M}
    {input rest : Input} (h : type.mergeField budget value input = .ok (merged, rest)) :
    rest.left < input.left := by
  unfold mergeField at h
  split at h
  · simp at h
  · next found => exact Nat.lt_of_le_of_lt (mergeAfterKey_le h) (readKey_shorter found)

/-- Merges fields until at most `limit` bytes are left. -/
def mergeFields (type : MessageType M) (budget limit : Nat) (value : M) (input : Input) :
    Except Fault (M × Input) :=
  if input.left ≤ limit then .ok (value, input)
  else
    match h : type.mergeField budget value input with
    | .error fault => .error fault
    | .ok (merged, rest) =>
      have := mergeField_shorter h
      type.mergeFields budget limit merged rest
termination_by input.left

theorem mergeFields_done {type : MessageType M} {budget limit : Nat} {value : M} {input : Input}
    (h : input.left ≤ limit) : type.mergeFields budget limit value input = .ok (value, input) := by
  rw [mergeFields, if_pos h]

theorem mergeFields_step {type : MessageType M} {budget limit : Nat} {value merged : M}
    {input rest : Input} (h : limit < input.left)
    (found : type.mergeField budget value input = .ok (merged, rest)) :
    type.mergeFields budget limit value input = type.mergeFields budget limit merged rest := by
  rw [mergeFields, if_neg (by omega)]
  split
  · next failed => simp [found] at failed
  · next other =>
      rw [found] at other
      simp only [Except.ok.injEq, Prod.mk.injEq] at other
      obtain ⟨rfl, rfl⟩ := other
      rfl

theorem mergeFields_error {type : MessageType M} {budget limit : Nat} {value : M} {input : Input}
    {fault : Fault} (h : limit < input.left)
    (failed : type.mergeField budget value input = .error fault) :
    type.mergeFields budget limit value input = .error fault := by
  rw [mergeFields, if_neg (by omega)]
  split
  · next other =>
      rw [failed] at other
      simpa using other.symm
  · next found => simp [failed] at found

theorem mergeFields_le {type : MessageType M} {budget limit : Nat} {value merged : M}
    {input rest : Input} (h : type.mergeFields budget limit value input = .ok (merged, rest)) :
    rest.left ≤ input.left := by
  fun_induction mergeFields type budget limit value input with
  | case1 =>
      simp only [Except.ok.injEq, Prod.mk.injEq] at h
      obtain ⟨_, rfl⟩ := h
      exact Nat.le_refl _
  | case2 => simp at h
  | case3 =>
      rename_i shorter ih
      exact Nat.le_trans (ih h) (Nat.le_of_lt shorter)

/-- Merges a whole message that stands after its length. The budget counts the messages that may lie
inside each other from here on. -/
def mergeDelimited (type : MessageType M) (budget : Nat) (value : M) (input : Input) :
    Except Fault (M × Input) :=
  match budget with
  | 0 => .error ⟨.recursionLimit, []⟩
  | budget + 1 =>
    match readVarint input with
    | .error cause => .error ⟨cause, []⟩
    | .ok (length, rest) =>
      if rest.left < length then .error ⟨.underflow, []⟩
      else
        match type.mergeFields budget (rest.left - length) value rest with
        | .error fault => .error fault
        | .ok (merged, after) =>
          if after.left = rest.left - length then .ok (merged, after)
          else .error ⟨.delimitedLength, []⟩

theorem mergeDelimited_shorter {type : MessageType M} {budget : Nat} {value merged : M}
    {input rest : Input} (h : type.mergeDelimited budget value input = .ok (merged, rest)) :
    rest.left < input.left := by
  unfold mergeDelimited at h
  split at h
  · simp at h
  · split at h
    · simp at h
    · next found =>
        split at h
        · simp at h
        · split at h
          · simp at h
          · next fields =>
              split at h
              · simp only [Except.ok.injEq, Prod.mk.injEq] at h
                obtain ⟨_, rfl⟩ := h
                exact Nat.lt_of_le_of_lt (mergeFields_le fields) (readVarint_shorter found)
              · simp at h

/-- How deep messages and groups may lie inside each other. -/
def depthLimit : Nat := 100

def decode (type : MessageType M) (bytes : Bytes) : Except Fault M :=
  (type.mergeFields depthLimit 0 type.empty (.ofBytes bytes)).map Prod.fst

end MessageType

/-- How a scalar is read, after a check that it makes the input shorter. -/
structure ScalarReader (α : Type) where
  read : Input → Except Cause (α × Input)
  read_shorter : ∀ {input value rest}, read input = .ok (value, rest) → rest.left < input.left

namespace ScalarReader

def map {α β : Type} (f : α → β) (reader : ScalarReader α) : ScalarReader β where
  read input :=
    match reader.read input with
    | .error cause => .error cause
    | .ok (value, rest) => .ok (f value, rest)
  read_shorter h := by
    split at h
    · simp at h
    · next found =>
        simp only [Except.ok.injEq, Prod.mk.injEq] at h
        obtain ⟨_, rfl⟩ := h
        exact reader.read_shorter found

def number : ScalarReader Nat := ⟨readVarint, readVarint_shorter⟩

def payload : ScalarReader Bytes := ⟨readPayload, readPayload_shorter⟩

def text : ScalarReader String where
  read input :=
    match readPayload input with
    | .error cause => .error cause
    | .ok (payload, rest) =>
      match Utf8.decode? payload with
      | none => .error .notText
      | some text => .ok (text, rest)
  read_shorter h := by
    split at h
    · simp at h
    · next found =>
        split at h
        · simp at h
        · simp only [Except.ok.injEq, Prod.mk.injEq] at h
          obtain ⟨_, rfl⟩ := h
          exact readPayload_shorter found

end ScalarReader

namespace Field

variable {M N α : Type}

def delimited (bytes : Bytes) : Bytes :=
  Varint.write bytes.length ++ bytes

def keyed (tag : Nat) (wireType : WireType) (bytes : Bytes) : Bytes :=
  Key.write ⟨tag, wireType⟩ ++ bytes

/-- A field with one value, which is written unless it is the default. -/
def scalar [DecidableEq α] (tag : Nat) (label : String) (wireType : WireType) (default : α)
    (reader : ScalarReader α) (write : α → Bytes) (get : M → α) (set : α → M → M) : Field M where
  tag := tag
  label := label
  merge _ actual value input :=
    if actual ≠ wireType then .error ⟨.wrongWireType actual wireType, []⟩
    else
      match reader.read input with
      | .error cause => .error ⟨cause, []⟩
      | .ok (scalar, rest) => .ok (set scalar value, rest)
  encode value :=
    if get value = default then [] else keyed tag wireType (write (get value))
  merge_shorter h := by
    split at h
    · simp at h
    · split at h
      · simp at h
      · next found =>
          simp only [Except.ok.injEq, Prod.mk.injEq] at h
          obtain ⟨_, rfl⟩ := h
          exact reader.read_shorter found

def text (tag : Nat) (label : String) (get : M → String) (set : String → M → M) : Field M :=
  scalar tag label .lengthDelimited "" .text (fun text => delimited (Utf8.encode text)) get set

def bytes (tag : Nat) (label : String) (get : M → Bytes) (set : Bytes → M → M) : Field M :=
  scalar tag label .lengthDelimited [] .payload delimited get set

def bool (tag : Nat) (label : String) (get : M → Bool) (set : Bool → M → M) : Field M :=
  scalar tag label .varint false (.map (· != 0) .number) (fun value => Varint.write value.toNat)
    get set

/-- A signed number of thirty-two bits, written with its sign extended to sixty-four. -/
def int32 (tag : Nat) (label : String) (get : M → Int32) (set : Int32 → M → M) : Field M :=
  scalar tag label .varint 0 (.map Int32.ofNat .number)
    (fun value => Varint.write (value.toInt % UInt64.size).toNat) get set

/-- A field whose value is a message of another type. `start` is the value that the bytes are merged
into, and `set` puts the merged value into its place. -/
def submessage (type : MessageType N) (tag : Nat) (label : String) (start : M → N)
    (set : N → M → M) (values : M → List N) : Field M where
  tag := tag
  label := label
  merge budget actual value input :=
    if actual ≠ .lengthDelimited then .error ⟨.wrongWireType actual .lengthDelimited, []⟩
    else
      match type.mergeDelimited budget (start value) input with
      | .error fault => .error fault
      | .ok (inner, rest) => .ok (set inner value, rest)
  encode value :=
    (values value).flatMap fun inner => keyed tag .lengthDelimited (delimited (type.encode inner))
  merge_shorter h := by
    split at h
    · simp at h
    · split at h
      · simp at h
      · next found =>
          simp only [Except.ok.injEq, Prod.mk.injEq] at h
          obtain ⟨_, rfl⟩ := h
          exact MessageType.mergeDelimited_shorter found

/-- A message that may be there. Its occurrences are merged into one. -/
def message (type : MessageType N) (tag : Nat) (label : String) (get : M → Option N)
    (set : Option N → M → M) : Field M :=
  submessage type tag label (fun value => (get value).getD type.empty)
    (fun inner value => set (some inner) value) (fun value => (get value).toList)

def messages (type : MessageType N) (tag : Nat) (label : String) (get : M → List N)
    (set : List N → M → M) : Field M :=
  submessage type tag label (fun _ => type.empty)
    (fun inner value => set (get value ++ [inner]) value) get

end Field

end TypedSql.Protobuf
