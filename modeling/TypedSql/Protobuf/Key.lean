import TypedSql.Protobuf.Fault
import TypedSql.Protobuf.Varint

/-!
The key before every field, and fields that are passed over because nobody knows their tag. A group
of unknown fields ends with a key of its own; groups may lie inside each other, within the budget
for nesting. Every reader leaves a shorter input.
-/

namespace TypedSql.Protobuf

structure Key where
  tag : Nat
  wireType : WireType
deriving DecidableEq

def Key.write (key : Key) : Bytes :=
  Varint.write (key.tag * 8 + key.wireType.code)

def readVarint (input : Input) : Except Cause (Nat × Input) :=
  match Varint.read? input with
  | some result => .ok result
  | none => .error .varint

def Key.ofNat (n : Nat) : Except Cause Key :=
  if UInt32.size ≤ n then .error (.key n)
  else
    match WireType.ofCode? (n % 8) with
    | none => .error (.wireType (n % 8))
    | some wireType => if n / 8 = 0 then .error .tag else .ok ⟨n / 8, wireType⟩

def readKey (input : Input) : Except Cause (Key × Input) :=
  match readVarint input with
  | .error cause => .error cause
  | .ok (n, rest) =>
    match Key.ofNat n with
    | .error cause => .error cause
    | .ok key => .ok (key, rest)

def readPayload (input : Input) : Except Cause (Bytes × Input) :=
  match readVarint input with
  | .error cause => .error cause
  | .ok (length, rest) =>
    if rest.left < length then .error .underflow
    else .ok (rest.bytes.take length, rest.drop length)

def skipBytes (count : Nat) (input : Input) : Except Cause Input :=
  if input.left < count then .error .underflow else .ok (input.drop count)

/-- Passes over a value that is not a group. -/
def skipValue (wireType : WireType) (input : Input) : Except Cause Input :=
  match wireType with
  | .varint => (readVarint input).map Prod.snd
  | .fixed64 => skipBytes 8 input
  | .lengthDelimited => (readPayload input).map Prod.snd
  | .fixed32 => skipBytes 4 input
  | .startGroup => .error .endGroup
  | .endGroup => .error .endGroup

theorem readVarint_shorter {n : Nat} {input rest : Input}
    (h : readVarint input = .ok (n, rest)) : rest.left < input.left := by
  unfold readVarint at h
  split at h
  · next result found =>
      simp only [Except.ok.injEq] at h
      subst h
      exact Varint.read?_shorter found
  · simp at h

theorem readKey_shorter {key : Key} {input rest : Input}
    (h : readKey input = .ok (key, rest)) : rest.left < input.left := by
  unfold readKey at h
  split at h
  · simp at h
  · next found =>
      split at h
      · simp at h
      · simp only [Except.ok.injEq, Prod.mk.injEq] at h
        obtain ⟨_, rfl⟩ := h
        exact readVarint_shorter found

theorem readPayload_shorter {payload : Bytes} {input rest : Input}
    (h : readPayload input = .ok (payload, rest)) : rest.left < input.left := by
  unfold readPayload at h
  split at h
  · simp at h
  · next found =>
      split at h
      · simp at h
      · simp only [Except.ok.injEq, Prod.mk.injEq] at h
        obtain ⟨_, rfl⟩ := h
        exact Nat.lt_of_le_of_lt (Nat.sub_le ..) (readVarint_shorter found)

private theorem skipBytes_shorter {count : Nat} {input rest : Input} (positive : 0 < count)
    (h : skipBytes count input = .ok rest) : rest.left < input.left := by
  unfold skipBytes at h
  split at h
  · simp at h
  · simp only [Except.ok.injEq] at h
    subst h
    simp only [Input.left_drop]
    omega

private theorem map_snd_ok {ε α β : Type} {result : Except ε (α × β)} {b : β}
    (h : result.map Prod.snd = .ok b) : ∃ a, result = .ok (a, b) := by
  cases result with
  | error _ => simp [Except.map] at h
  | ok pair =>
      obtain ⟨a, c⟩ := pair
      simp only [Except.map, Except.ok.injEq] at h
      exact ⟨a, by rw [h]⟩

theorem skipValue_shorter {wireType : WireType} {input rest : Input}
    (h : skipValue wireType input = .ok rest) : rest.left < input.left := by
  cases wireType with
  | varint =>
      obtain ⟨_, found⟩ := map_snd_ok h
      exact readVarint_shorter found
  | fixed64 => exact skipBytes_shorter (by decide) h
  | lengthDelimited =>
      obtain ⟨_, found⟩ := map_snd_ok h
      exact readPayload_shorter found
  | startGroup => simp [skipValue] at h
  | endGroup => simp [skipValue] at h
  | fixed32 => exact skipBytes_shorter (by decide) h

/-- Passes over the rest of the groups that are open, given by their tags, the innermost first. -/
def skipGroups (budget : Nat) : List Nat → Input → Except Cause Input
  | [], input => .ok input
  | tag :: outer, input =>
    match hkey : readKey input with
    | .error cause => .error cause
    | .ok (key, rest) =>
      have := readKey_shorter hkey
      match key.wireType with
      | .endGroup => if key.tag = tag then skipGroups budget outer rest else .error .endGroup
      | .startGroup =>
        if budget ≤ (tag :: outer).length then .error .recursionLimit
        else skipGroups budget (key.tag :: tag :: outer) rest
      | wireType =>
        if budget ≤ (tag :: outer).length then .error .recursionLimit
        else
          match hvalue : skipValue wireType rest with
          | .error cause => .error cause
          | .ok rest =>
            have := skipValue_shorter hvalue
            skipGroups budget (tag :: outer) rest
termination_by _ input => input.left

theorem skipGroups_le {budget : Nat} {tags : List Nat} {input rest : Input}
    (h : skipGroups budget tags input = .ok rest) : rest.left ≤ input.left := by
  fun_induction skipGroups budget tags input with
  | case1 =>
      simp only [Except.ok.injEq] at h
      subst h
      exact Nat.le_refl _
  | case2 => simp at h
  | case3 =>
      rename_i shorter _ ih
      exact Nat.le_trans (ih h) (Nat.le_of_lt shorter)
  | case4 => simp at h
  | case5 => simp at h
  | case6 =>
      rename_i shorter _ _ ih
      exact Nat.le_trans (ih h) (Nat.le_of_lt shorter)
  | case7 => simp at h
  | case8 => simp at h
  | case9 =>
      rename_i keyShorter _ _ _ _ _ valueShorter ih
      exact Nat.le_trans (ih h) (Nat.le_of_lt (Nat.lt_trans valueShorter keyShorter))

def skipField (budget : Nat) (key : Key) (input : Input) : Except Cause Input :=
  if budget = 0 then .error .recursionLimit
  else
    match key.wireType with
    | .startGroup => skipGroups budget [key.tag] input
    | wireType => skipValue wireType input

theorem skipField_le {budget : Nat} {key : Key} {input rest : Input}
    (h : skipField budget key input = .ok rest) : rest.left ≤ input.left := by
  unfold skipField at h
  split at h
  · simp at h
  · split at h
    · exact skipGroups_le h
    · exact Nat.le_of_lt (skipValue_shorter h)

/-- The number of a key with a possible tag is that key. -/
theorem Key.ofNat_number {key : Key} (positive : 0 < key.tag) (small : key.tag < 0x20000000) :
    Key.ofNat (key.tag * 8 + key.wireType.code) = .ok key := by
  have code := key.wireType.code_lt
  have size : ¬ UInt32.size ≤ key.tag * 8 + key.wireType.code := by
    rw [show UInt32.size = 4294967296 from rfl]
    omega
  have low : (key.tag * 8 + key.wireType.code) % 8 = key.wireType.code := by omega
  have high : (key.tag * 8 + key.wireType.code) / 8 = key.tag := by omega
  rw [Key.ofNat, if_neg size, low, high, WireType.ofCode?_code]
  simp only
  rw [if_neg (by omega)]

/-- A key that is written is read back. -/
theorem readKey_write {key : Key} (positive : 0 < key.tag) (small : key.tag < 0x20000000)
    (rest : Bytes) : readKey (.ofBytes (key.write ++ rest)) = .ok (key, .ofBytes rest) := by
  have code := key.wireType.code_lt
  have size : key.tag * 8 + key.wireType.code < UInt64.size := by
    rw [show UInt64.size = 18446744073709551616 from rfl]
    omega
  simp only [readKey, readVarint, Key.write, Varint.read?_write size,
    Key.ofNat_number positive small]

end TypedSql.Protobuf
