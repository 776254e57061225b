import Mathlib.Data.List.Nodup
import TypedSql.Proofs.Protobuf.Spelling

/-!
Reading what was written. Bytes are read field by field into one value, so what they do is described
by the value before and the value or the fault after them, whatever bytes follow. The bytes that a
field writes put that field's part of a value in place and leave the rest alone. Hence all fields of
a message type together rebuild a value from the empty one, and a message type has this property as
soon as the types of its submessages have it.
-/

namespace TypedSql.Protobuf

variable {M N α : Type}

namespace MessageType

/-- Reading the bytes turns `before` into the outcome and stops where they end. -/
def Yields (type : MessageType M) (budget : Nat) (bytes : Bytes) (before : M)
    (outcome : Except Fault M) : Prop :=
  ∀ (rest : Bytes) (limit : Nat), limit ≤ rest.length →
    type.mergeFields budget limit before (.ofBytes (bytes ++ rest)) =
      outcome.bind fun after => type.mergeFields budget limit after (.ofBytes rest)

def Carries (type : MessageType M) (budget : Nat) (bytes : Bytes) (before after : M) : Prop :=
  ∀ (rest : Bytes) (limit : Nat), limit ≤ rest.length →
    type.mergeFields budget limit before (.ofBytes (bytes ++ rest)) =
      type.mergeFields budget limit after (.ofBytes rest)

variable {type : MessageType M} {budget : Nat} {before middle after : M}

theorem carries_nil (value : M) : type.Carries budget [] value value :=
  fun _ _ _ => rfl

theorem Carries.yields {bytes : Bytes} (h : type.Carries budget bytes before after) :
    type.Yields budget bytes before (.ok after) :=
  h

theorem Yields.append {first second : Bytes} {outcome : Except Fault M}
    (hfirst : type.Yields budget first before (.ok middle))
    (hsecond : type.Yields budget second middle outcome) :
    type.Yields budget (first ++ second) before outcome := by
  intro rest limit hlimit
  have hlong : limit ≤ (second ++ rest).length := by
    rw [List.length_append]
    omega
  rw [List.append_assoc, hfirst _ _ hlong]
  exact hsecond _ _ hlimit

theorem Yields.append_error {first second : Bytes} {fault : Fault}
    (hfirst : type.Yields budget first before (.error fault)) :
    type.Yields budget (first ++ second) before (.error fault) := by
  intro rest limit hlimit
  have hlong : limit ≤ (second ++ rest).length := by
    rw [List.length_append]
    omega
  rw [List.append_assoc, hfirst _ _ hlong]
  rfl

theorem Carries.append {first second : Bytes} (hfirst : type.Carries budget first before middle)
    (hsecond : type.Carries budget second middle after) :
    type.Carries budget (first ++ second) before after :=
  hfirst.yields.append hsecond.yields

/-- The tags of a message type increase, from above zero to below the first that no key has. -/
def WellTagged (type : MessageType M) : Prop :=
  (0 :: (type.fields.map Field.tag ++ [0x20000000])).Pairwise (· < ·)

instance (type : MessageType M) : Decidable type.WellTagged :=
  inferInstanceAs (Decidable (List.Pairwise _ _))

theorem WellTagged.bounds {field : Field M} (h : type.WellTagged) (hfield : field ∈ type.fields) :
    0 < field.tag ∧ field.tag < 0x20000000 := by
  have htag : field.tag ∈ type.fields.map Field.tag := List.mem_map_of_mem hfield
  obtain ⟨hpositive, hrest⟩ := List.pairwise_cons.mp h
  obtain ⟨-, -, hsmall⟩ := List.pairwise_append.mp hrest
  exact ⟨hpositive _ (List.mem_append_left _ htag), hsmall _ htag _ (by simp)⟩

theorem WellTagged.field?_eq {field : Field M} (h : type.WellTagged)
    (hfield : field ∈ type.fields) :
    type.field? field.tag = some field := by
  obtain ⟨front, back, hsplit⟩ := List.append_of_mem hfield
  rw [field?, List.find?_eq_some_iff_append]
  refine ⟨beq_self_eq_true _, front, back, hsplit, ?_⟩
  intro other hother
  obtain ⟨-, hrest⟩ := List.pairwise_cons.mp h
  have hincreasing := (List.pairwise_append.mp hrest).1
  rw [hsplit, List.map_append, List.map_cons] at hincreasing
  have hlt : other.tag < field.tag := (List.pairwise_append.mp hincreasing).2.2 _
    (List.mem_map_of_mem hother) _ (by simp)
  simpa using Nat.ne_of_lt hlt

/-- The step: a key is followed by bytes that the field with its tag merges. -/
theorem yields_keyed {field : Field M} {wireType : WireType} {payload : Bytes}
    {outcome : Except Fault M} (htype : type.WellTagged) (hfield : field ∈ type.fields)
    (hmerge : ∀ rest, field.merge budget wireType before (.ofBytes (payload ++ rest)) =
      outcome.map fun after => (after, .ofBytes rest)) :
    type.Yields budget (Field.keyed field.tag wireType payload) before
      (outcome.mapError fun fault => fault.within ⟨type.name, field.label⟩) := by
  intro rest limit hlimit
  obtain ⟨hpositive, hsmall⟩ := htype.bounds hfield
  have hread : readKey (.ofBytes (Key.write ⟨field.tag, wireType⟩ ++ (payload ++ rest))) =
      .ok (⟨field.tag, wireType⟩, .ofBytes (payload ++ rest)) :=
    readKey_write hpositive hsmall _
  have hlong : limit < (Key.write ⟨field.tag, wireType⟩ ++ (payload ++ rest)).length := by
    have hkey := List.length_pos_iff.mpr (Varint.write_ne_nil (field.tag * 8 + wireType.code))
    simp only [Key.write, List.length_append]
    omega
  rw [Field.keyed, List.append_assoc]
  cases outcome with
  | ok after =>
      refine mergeFields_step hlong ?_
      simp only [mergeField, hread, mergeAfterKey, htype.field?_eq hfield, hmerge, Except.map]
  | error fault =>
      refine mergeFields_error hlong ?_
      simp only [mergeField, hread, mergeAfterKey, htype.field?_eq hfield, hmerge, Except.map]

theorem carries_keyed {field : Field M} {wireType : WireType} {payload : Bytes}
    (htype : type.WellTagged) (hfield : field ∈ type.fields)
    (hmerge : ∀ rest, field.merge budget wireType before (.ofBytes (payload ++ rest)) =
      .ok (after, .ofBytes rest)) :
    type.Carries budget (Field.keyed field.tag wireType payload) before after :=
  @yields_keyed M type budget before field wireType payload (.ok after) htype hfield hmerge

/-- What a message behind its length does to the message that it is merged into. -/
theorem Yields.mergeDelimited {payload : Bytes} {outcome : Except Fault M}
    (h : type.Yields budget payload before outcome) (hlength : payload.length < UInt64.size)
    (rest : Bytes) :
    type.mergeDelimited (budget + 1) before (.ofBytes (Field.delimited payload ++ rest)) =
      outcome.map fun after => (after, .ofBytes rest) := by
  have hread := Varint.read?_write hlength (payload ++ rest)
  have hleft : (Input.ofBytes (payload ++ rest)).left - payload.length = rest.length := by simp
  have hfits : ¬ (Input.ofBytes (payload ++ rest)).left < payload.length := by simp
  rw [MessageType.mergeDelimited, Field.delimited, List.append_assoc]
  simp only [readVarint, hread]
  rw [if_neg hfits, hleft, h rest rest.length (Nat.le_refl _)]
  cases outcome with
  | error fault => rfl
  | ok after =>
      have hdone : type.mergeFields budget rest.length after (.ofBytes rest) =
          .ok (after, .ofBytes rest) := mergeFields_done (Nat.le_refl _)
      simp [Except.bind, Except.map, hdone]

/-- Values of the type are read back where at least `depth` messages may lie inside each other. The
length of what is written is a number of sixty-four bits, as the length of any bytes in memory. -/
def RoundTrips (type : MessageType M) (depth : Nat) : Prop :=
  ∀ value budget, depth ≤ budget → (type.encode value).length < UInt64.size →
    type.Carries budget (type.encode value) type.empty value

/-- A value behind its length is read back as a whole. -/
theorem RoundTrips.mergeDelimited {depth : Nat} (h : type.RoundTrips depth)
    (hdepth : depth < budget) {value : M} (hlength : (type.encode value).length < UInt64.size)
    (rest : Bytes) :
    type.mergeDelimited budget type.empty
      (.ofBytes (Field.delimited (type.encode value) ++ rest)) = .ok (value, .ofBytes rest) := by
  obtain ⟨budget, rfl⟩ := Nat.exists_eq_add_of_lt hdepth
  have hvalue := h value (depth + budget) (Nat.le_add_right ..) hlength
  exact hvalue.yields.mergeDelimited hlength rest

/-- A whole message is read back, as deep as messages may be. -/
theorem RoundTrips.decode_encode {depth : Nat} (h : type.RoundTrips depth)
    (hdepth : depth ≤ depthLimit) {value : M} (hlength : (type.encode value).length < UInt64.size) :
    type.decode (type.encode value) = .ok value := by
  have hall := h value depthLimit hdepth hlength [] 0 (Nat.le_refl _)
  rw [List.append_nil] at hall
  rw [decode, hall, mergeFields_done (Nat.zero_le _)]
  rfl

end MessageType

namespace ScalarReader

theorem read_payload {payload : Bytes} (h : payload.length < UInt64.size) (rest : Bytes) :
    readPayload (.ofBytes (Field.delimited payload ++ rest)) = .ok (payload, .ofBytes rest) :=
  readPayload_spelled (Varint.isSpelling_write h) rest

theorem read_text {text : String} (h : (Utf8.encode text).length < UInt64.size) (rest : Bytes) :
    ScalarReader.text.read (.ofBytes (Field.delimited (Utf8.encode text) ++ rest)) =
      .ok (text, .ofBytes rest) := by
  simp only [ScalarReader.text, read_payload h, Utf8.decode?_encode]

theorem read_number {n : Nat} (h : n < UInt64.size) (rest : Bytes) :
    ScalarReader.number.read (.ofBytes (Varint.write n ++ rest)) = .ok (n, .ofBytes rest) := by
  simp only [ScalarReader.number, readVarint, Varint.read?_write h]

/-- The sign extension of a number of thirty-two bits is dropped again. -/
theorem ofNat_signExtended (value : Int32) :
    Int32.ofNat (value.toInt % UInt64.size).toNat = value := by
  apply Int32.toInt_inj.mp
  have hupper := value.toInt_lt
  have hlower := value.le_toInt
  have hsize : ((UInt64.size : Nat) : Int) = 18446744073709551616 := rfl
  rw [Int32.toInt_ofNat', Int.bmod_def, hsize]
  simp only [Int32.size]
  omega

end ScalarReader

namespace Field

variable {type : MessageType M} {source before middle after : M} {depth : Nat}

/-- Reading what a field writes of `source` turns `before` into `after`, if the field belongs to the
type and what it writes has a length of sixty-four bits. -/
def Restores (type : MessageType M) (depth : Nat) (source : M) (field : Field M)
    (before after : M) : Prop :=
  type.WellTagged → field ∈ type.fields → ∀ budget, depth ≤ budget →
    (field.encode source).length < UInt64.size →
      type.Carries budget (field.encode source) before after

theorem length_le_keyed (tag : Nat) (wireType : WireType) (bytes : Bytes) :
    bytes.length ≤ (keyed tag wireType bytes).length := by
  rw [keyed, List.length_append]
  omega

theorem length_le_delimited (bytes : Bytes) : bytes.length ≤ (delimited bytes).length := by
  rw [delimited, List.length_append]
  omega

section Scalar

variable {tag : Nat} {label : String} {get : M → α} {set : α → M → M}

/-- A scalar that is left out is the default, which `before` still has. -/
theorem restores_scalar [DecidableEq α] {wireType : WireType} {default : α}
    {reader : ScalarReader α} {write : α → Bytes} (hbefore : set default before = before)
    (hread : (keyed tag wireType (write (get source))).length < UInt64.size → ∀ rest,
      reader.read (.ofBytes (write (get source) ++ rest)) = .ok (get source, .ofBytes rest)) :
    Restores type depth source (scalar tag label wireType default reader write get set) before
      (set (get source) before) := by
  intro htype hfield budget _ hlength
  by_cases hdefault : get source = default
  · have hnone : (scalar tag label wireType default reader write get set).encode source = [] :=
      if_pos hdefault
    rw [hnone, hdefault, hbefore]
    exact MessageType.carries_nil before
  · have hsome : (scalar tag label wireType default reader write get set).encode source =
        keyed tag wireType (write (get source)) := if_neg hdefault
    rw [hsome] at hlength ⊢
    apply MessageType.carries_keyed htype hfield
    intro rest
    simp only [scalar, ne_eq, not_true_eq_false, if_false, hread hlength rest]

theorem restores_text {get : M → String} {set : String → M → M}
    (hbefore : set "" before = before) :
    Restores type depth source (text tag label get set) before (set (get source) before) := by
  refine restores_scalar hbefore ?_
  intro hlength rest
  have hbytes := length_le_delimited (Utf8.encode (get source))
  have hkeyed := length_le_keyed tag .lengthDelimited (delimited (Utf8.encode (get source)))
  exact ScalarReader.read_text (by omega) rest

theorem restores_bytes {get : M → Bytes} {set : Bytes → M → M} (hbefore : set [] before = before) :
    Restores type depth source (bytes tag label get set) before (set (get source) before) := by
  refine restores_scalar hbefore ?_
  intro hlength rest
  have hbytes := length_le_delimited (get source)
  have hkeyed := length_le_keyed tag .lengthDelimited (delimited (get source))
  exact ScalarReader.read_payload (by omega) rest

theorem restores_bool {get : M → Bool} {set : Bool → M → M}
    (hbefore : set false before = before) :
    Restores type depth source (bool tag label get set) before (set (get source) before) := by
  refine restores_scalar hbefore ?_
  intro _ rest
  have hsmall : (get source).toNat < UInt64.size :=
    Nat.lt_of_le_of_lt (Bool.toNat_le _) (by decide)
  simp only [ScalarReader.map, ScalarReader.read_number hsmall]
  cases get source <;> rfl

theorem restores_int32 {get : M → Int32} {set : Int32 → M → M}
    (hbefore : set 0 before = before) :
    Restores type depth source (int32 tag label get set) before (set (get source) before) := by
  refine restores_scalar hbefore ?_
  intro _ rest
  have hsmall : ((get source).toInt % UInt64.size).toNat < UInt64.size := by
    rw [show UInt64.size = 18446744073709551616 from rfl]
    omega
  simp only [ScalarReader.map, ScalarReader.read_number hsmall, ScalarReader.ofNat_signExtended]

end Scalar

section Submessage

variable {inner : MessageType N} {tag innerDepth : Nat} {label : String}

/-- One submessage: it is merged into an empty value. -/
theorem carries_submessage {start : M → N} {set : N → M → M} {values : M → List N} {value : N}
    {budget : Nat} (hinner : inner.RoundTrips innerDepth) (hdepth : innerDepth < budget)
    (htype : type.WellTagged)
    (hfield : submessage inner tag label start set values ∈ type.fields)
    (hstart : start before = inner.empty)
    (hlength : (keyed tag .lengthDelimited (delimited (inner.encode value))).length <
      UInt64.size) :
    type.Carries budget (keyed tag .lengthDelimited (delimited (inner.encode value))) before
      (set value before) := by
  have hbytes := length_le_delimited (inner.encode value)
  have hkeyed := length_le_keyed tag .lengthDelimited (delimited (inner.encode value))
  have hvalue : (inner.encode value).length < UInt64.size := by omega
  apply MessageType.carries_keyed htype hfield
  intro rest
  simp only [submessage, ne_eq, not_true_eq_false, if_false, hstart,
    hinner.mergeDelimited hdepth hvalue rest]

/-- A submessage may be absent, and then `before` has none either. One that is there is written even
if it is empty. -/
theorem restores_message {get : M → Option N} {set : Option N → M → M}
    (hinner : inner.RoundTrips innerDepth) (hdepth : innerDepth < depth)
    (hget : get before = none) (hbefore : set none before = before) :
    Restores type depth source (message inner tag label get set) before
      (set (get source) before) := by
  intro htype hfield budget hbudget hlength
  change ((get source).toList.flatMap _).length < _ at hlength
  change type.Carries budget ((get source).toList.flatMap _) before _
  cases hvalue : get source with
  | none =>
      rw [hbefore]
      exact MessageType.carries_nil before
  | some value =>
      rw [hvalue] at hlength
      rw [Option.toList_some, List.flatMap_singleton] at hlength ⊢
      have hstart : (get before).getD inner.empty = inner.empty := by rw [hget]; rfl
      exact carries_submessage hinner (Nat.lt_of_lt_of_le hdepth hbudget) htype hfield hstart
        hlength

/-- Submessages in any number: every one is appended to those before it. -/
theorem restores_messages {get : M → List N} {set : List N → M → M}
    (hinner : inner.RoundTrips innerDepth) (hdepth : innerDepth < depth)
    (hget : ∀ values, get (set values before) = values)
    (hset : ∀ values values', set values (set values' before) = set values before)
    (hbefore : set [] before = before) :
    Restores type depth source (messages inner tag label get set) before
      (set (get source) before) := by
  intro htype hfield budget hbudget hlength
  have hall : ∀ values collected,
      (values.flatMap fun value =>
        keyed tag .lengthDelimited (delimited (inner.encode value))).length < UInt64.size →
      type.Carries budget
        (values.flatMap fun value =>
          keyed tag .lengthDelimited (delimited (inner.encode value)))
        (set collected before) (set (collected ++ values) before) := by
    intro values
    induction values with
    | nil =>
        intro collected _
        rw [List.append_nil]
        exact MessageType.carries_nil _
    | cons value values ih =>
        intro collected hlength
        rw [List.flatMap_cons, List.length_append] at hlength
        have hfirst : type.Carries budget
            (keyed tag .lengthDelimited (delimited (inner.encode value))) (set collected before)
            (set (get (set collected before) ++ [value]) (set collected before)) :=
          carries_submessage hinner (Nat.lt_of_lt_of_le hdepth hbudget) htype hfield rfl (by omega)
        have hrest := ih (collected ++ [value]) (by omega)
        rw [hget, hset] at hfirst
        rw [List.append_assoc, List.singleton_append] at hrest
        rw [List.flatMap_cons]
        exact hfirst.append hrest
  have hsource := hall (get source) [] hlength
  rwa [hbefore, List.nil_append] at hsource

end Submessage

inductive RestoreAll (type : MessageType M) (depth : Nat) (source : M) :
    List (Field M) → M → M → Prop
  | nil (value : M) : RestoreAll type depth source [] value value
  | cons {field : Field M} {fields : List (Field M)} {before middle after : M} :
      Restores type depth source field before middle →
      RestoreAll type depth source fields middle after →
      RestoreAll type depth source (field :: fields) before after

theorem RestoreAll.carries {fields : List (Field M)} {budget : Nat}
    (h : RestoreAll type depth source fields before after) (htype : type.WellTagged)
    (hfields : fields ⊆ type.fields) (hdepth : depth ≤ budget)
    (hlength : (fields.flatMap fun field => field.encode source).length < UInt64.size) :
    type.Carries budget (fields.flatMap fun field => field.encode source) before after := by
  induction h with
  | nil value => exact MessageType.carries_nil value
  | cons hfield _ ih =>
      rw [List.flatMap_cons, List.length_append] at hlength
      obtain ⟨hmem, hsub⟩ := List.cons_subset.mp hfields
      rw [List.flatMap_cons]
      exact (hfield htype hmem budget hdepth (by omega)).append (ih hsub (by omega))

end Field

/-- A message type round-trips if its fields rebuild every value from the empty one. -/
theorem MessageType.roundTrips_of_restoreAll {type : MessageType M} {depth : Nat}
    (htype : type.WellTagged)
    (h : ∀ source, Field.RestoreAll type depth source type.fields type.empty source) :
    type.RoundTrips depth := by
  intro source budget hdepth hlength
  exact (h source).carries htype (List.Subset.refl _) hdepth hlength

end TypedSql.Protobuf
