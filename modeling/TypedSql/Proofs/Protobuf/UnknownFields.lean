import TypedSql.Proofs.Protobuf.RoundTrip

/-!
Fields that a message does not declare change nothing, wherever they stand. What reading bytes does
is described by its outcome, which depends on the message before them and on no byte after them:
a message after them, or a fault. Two pieces of bytes are alike if they have the same outcome
for every message. A piece with unknown fields put between its fields, and into the messages that
its fields hold, at any depth, is like the piece itself.
-/

namespace TypedSql.Protobuf

variable {M N α : Type}

namespace Field

/-- Reading a field's bytes turns `before` into the outcome and stops where they end. -/
def Reads (field : Field M) (budget : Nat) (wireType : WireType) (bytes : Bytes) (before : M)
    (outcome : Except Fault M) : Prop :=
  ∀ rest, field.merge budget wireType before (.ofBytes (bytes ++ rest)) =
    outcome.map fun after => (after, .ofBytes rest)

/-- A field that reads values as wholes, and writes one value or none. -/
structure Flat (field : Field M) : Prop where
  reads : ∀ wireType bytes, IsValue wireType bytes →
    ∀ budget before, ∃ outcome, field.Reads budget wireType bytes before outcome
  writes : ∀ value, (field.encode value).length < UInt64.size → field.encode value = [] ∨
    ∃ wireType bytes, IsValue wireType bytes ∧ field.encode value = keyed field.tag wireType bytes

def Holds (field : Field M) (inner : MessageType N) : Prop :=
  ∃ label start set values, field = submessage inner field.tag label start set values

end Field

namespace MessageType

variable {type : MessageType M} {inner : MessageType N} {budget : Nat} {before : M}

/-- Two pieces of bytes that do the same to every message. -/
def Alike (type : MessageType M) (budget : Nat) (first second : Bytes) : Prop :=
  ∀ before, ∃ outcome,
    type.Yields budget first before outcome ∧ type.Yields budget second before outcome

theorem alike_nil : type.Alike budget [] [] := fun before =>
  ⟨.ok before, (carries_nil before).yields, (carries_nil before).yields⟩

theorem Alike.append {first second first' second' : Bytes} (hfirst : type.Alike budget first first')
    (hsecond : type.Alike budget second second') :
    type.Alike budget (first ++ second) (first' ++ second') := by
  intro before
  obtain ⟨outcome, hyields, hyields'⟩ := hfirst before
  cases outcome with
  | error fault => exact ⟨.error fault, hyields.append_error, hyields'.append_error⟩
  | ok middle =>
      obtain ⟨outcome, hrest, hrest'⟩ := hsecond middle
      exact ⟨outcome, hyields.append hrest, hyields'.append hrest'⟩

/-- Bytes that change no message can stand before any others. -/
theorem Alike.insert {bytes second second' : Bytes}
    (hbytes : ∀ value, type.Carries budget bytes value value)
    (hsecond : type.Alike budget second second') : type.Alike budget second (bytes ++ second') := by
  intro before
  obtain ⟨outcome, hyields, hyields'⟩ := hsecond before
  exact ⟨outcome, hyields, (hbytes before).yields.append hyields'⟩

/-- Whole messages that are alike are decoded alike. -/
theorem Alike.decode_eq {first second : Bytes} (h : type.Alike depthLimit first second) :
    type.decode second = type.decode first := by
  obtain ⟨outcome, hyields, hyields'⟩ := h type.empty
  have hfirst := hyields [] 0 (Nat.le_refl _)
  have hsecond := hyields' [] 0 (Nat.le_refl _)
  rw [List.append_nil] at hfirst hsecond
  rw [decode, decode, hfirst, hsecond]

theorem alike_keyed {field : Field M} {wireType : WireType} {first second : Bytes}
    (htype : type.WellTagged) (hfield : field ∈ type.fields)
    (hreads : ∀ before, ∃ outcome, field.Reads budget wireType first before outcome ∧
      field.Reads budget wireType second before outcome) :
    type.Alike budget (Field.keyed field.tag wireType first)
      (Field.keyed field.tag wireType second) := by
  intro before
  obtain ⟨outcome, hfirst, hsecond⟩ := hreads before
  exact ⟨_, yields_keyed htype hfield hfirst, yields_keyed htype hfield hsecond⟩

/-- A field that the type does not declare changes no message. -/
theorem carries_unknown {key : Key} {bytes value : Bytes} (hbudget : 0 < budget)
    (hkey : key.IsSpelling bytes) (hvalue : IsValue key.wireType value)
    (htag : key.tag ∉ type.fields.map Field.tag) (message : M) :
    type.Carries budget (bytes ++ value) message message := by
  intro rest limit hlimit
  have hnone : type.field? key.tag = none := by
    rw [field?, List.find?_eq_none]
    intro field hfield hsame
    exact htag (List.mem_map.mpr ⟨field, hfield, by simpa using hsame⟩)
  have hstep : type.mergeField budget message (.ofBytes (bytes ++ (value ++ rest))) =
      .ok (message, .ofBytes rest) := by
    simp only [mergeField, hkey.readKey, mergeAfterKey, hnone, hvalue.skipField hbudget]
  have hlong : limit < (bytes ++ (value ++ rest)).length := by
    have hlength := List.length_pos_iff.mpr hkey.number.ne_nil
    simp only [List.length_append]
    omega
  rw [List.append_assoc]
  exact mergeFields_step hlong hstep

/-- A field that holds messages reads them alike if they are alike. -/
theorem Alike.reads {first second : Bytes} {field : Field M} (h : inner.Alike budget first second)
    (hholds : field.Holds inner) (hfirst : first.length < UInt64.size)
    (hsecond : second.length < UInt64.size) (before : M) :
    ∃ outcome,
      field.Reads (budget + 1) .lengthDelimited (Field.delimited first) before outcome ∧
      field.Reads (budget + 1) .lengthDelimited (Field.delimited second) before outcome := by
  obtain ⟨label, start, set, values, hfield⟩ := hholds
  obtain ⟨outcome, hyields, hyields'⟩ := h (start before)
  rw [hfield]
  refine ⟨outcome.map fun value => set value before, ?_, ?_⟩
  · intro rest
    simp only [Field.submessage, ne_eq, not_true_eq_false, if_false,
      hyields.mergeDelimited hfirst rest]
    cases outcome <;> rfl
  · intro rest
    simp only [Field.submessage, ne_eq, not_true_eq_false, if_false,
      hyields'.mergeDelimited hsecond rest]
    cases outcome <;> rfl

end MessageType

section Fields

/-- A reader that takes exactly the bytes of a value, whatever bytes follow. -/
def ScalarReader.Stops (reader : ScalarReader α) (wireType : WireType) : Prop :=
  ∀ bytes, IsValue wireType bytes → ∃ outcome : Except Cause α, ∀ rest,
    reader.read (.ofBytes (bytes ++ rest)) = outcome.map fun value => (value, .ofBytes rest)

namespace ScalarReader

theorem stops_number : number.Stops .varint := by
  intro bytes hvalue
  cases hvalue with
  | @varint _ n h => exact ⟨.ok n, fun rest => h.readVarint rest⟩

theorem stops_payload : payload.Stops .lengthDelimited := by
  intro bytes hvalue
  cases hvalue with
  | @lengthDelimited length payload h => exact ⟨.ok payload, fun rest => readPayload_spelled h rest⟩

theorem stops_text : text.Stops .lengthDelimited := by
  intro bytes hvalue
  cases hvalue with
  | @lengthDelimited length payload h =>
      cases hdecode : Utf8.decode? payload with
      | none =>
          refine ⟨.error .notText, fun rest => ?_⟩
          simp only [text, readPayload_spelled h, hdecode, Except.map]
      | some value =>
          refine ⟨.ok value, fun rest => ?_⟩
          simp only [text, readPayload_spelled h, hdecode, Except.map]

theorem Stops.map {β : Type} {reader : ScalarReader α} {wireType : WireType}
    (h : reader.Stops wireType) (f : α → β) : (reader.map f).Stops wireType := by
  intro bytes hvalue
  obtain ⟨outcome, hread⟩ := h bytes hvalue
  refine ⟨outcome.map f, fun rest => ?_⟩
  simp only [ScalarReader.map, hread]
  cases outcome <;> rfl

end ScalarReader

namespace Field

theorem flat_scalar [DecidableEq α] {tag : Nat} {label : String} {wireType : WireType} {default : α}
    {reader : ScalarReader α} {write : α → Bytes} {get : M → α} {set : α → M → M}
    (hreader : reader.Stops wireType)
    (hwrite : ∀ value, (write value).length < UInt64.size → IsValue wireType (write value)) :
    (scalar tag label wireType default reader write get set).Flat where
  reads := by
    intro actual bytes hvalue budget before
    by_cases hactual : actual = wireType
    · subst hactual
      obtain ⟨outcome, hread⟩ := hreader bytes hvalue
      refine ⟨(outcome.map fun value => set value before).mapError fun cause => ⟨cause, []⟩, ?_⟩
      intro rest
      simp only [scalar, ne_eq, not_true_eq_false, if_false, hread rest]
      cases outcome <;> rfl
    · refine ⟨.error ⟨.wrongWireType actual wireType, []⟩, fun rest => ?_⟩
      exact if_pos hactual
  writes := by
    intro value hlength
    by_cases hdefault : get value = default
    · exact Or.inl (if_pos hdefault)
    · have hsome : (scalar tag label wireType default reader write get set).encode value =
          keyed tag wireType (write (get value)) := if_neg hdefault
      rw [hsome] at hlength ⊢
      have hkeyed := length_le_keyed tag wireType (write (get value))
      exact Or.inr ⟨wireType, _, hwrite _ (by omega), rfl⟩

theorem isValue_delimited {payload : Bytes} (h : (delimited payload).length < UInt64.size) :
    IsValue .lengthDelimited (delimited payload) := by
  have hlength := length_le_delimited payload
  exact .lengthDelimited (Varint.isSpelling_write (by omega))

variable {tag : Nat} {label : String}

theorem flat_text {get : M → String} {set : String → M → M} : (text tag label get set).Flat :=
  flat_scalar ScalarReader.stops_text fun _ => isValue_delimited

theorem flat_bytes {get : M → Bytes} {set : Bytes → M → M} : (bytes tag label get set).Flat :=
  flat_scalar ScalarReader.stops_payload fun _ => isValue_delimited

theorem flat_bool {get : M → Bool} {set : Bool → M → M} : (bool tag label get set).Flat := by
  refine flat_scalar (ScalarReader.stops_number.map _) fun value _ => ?_
  exact .varint (Varint.isSpelling_write (Nat.lt_of_le_of_lt (Bool.toNat_le value) (by decide)))

theorem flat_int32 {get : M → Int32} {set : Int32 → M → M} : (int32 tag label get set).Flat := by
  refine flat_scalar (ScalarReader.stops_number.map _) fun value _ => ?_
  refine .varint (Varint.isSpelling_write ?_)
  rw [show UInt64.size = 18446744073709551616 from rfl]
  omega

theorem holds_message {inner : MessageType N} {get : M → Option N} {set : Option N → M → M} :
    (message inner tag label get set).Holds inner :=
  ⟨_, _, _, _, rfl⟩

theorem holds_messages {inner : MessageType N} {get : M → List N} {set : List N → M → M} :
    (messages inner tag label get set).Holds inner :=
  ⟨_, _, _, _, rfl⟩

end Field

end Fields

/-- Message types whose fields hold messages of each other. -/
structure Family (Kind : Type) where
  Message : Kind → Type
  type : (kind : Kind) → MessageType (Message kind)
  inner? : Kind → Nat → Option Kind
  depth : Kind → Nat
  depth_lt : ∀ kind, depth kind < MessageType.depthLimit
  wellTagged : ∀ kind, (type kind).WellTagged
  fits : ∀ kind, (type kind).fields.Forall fun field =>
    match inner? kind field.tag with
    | none => field.Flat
    | some inner => field.Holds (type inner) ∧ depth inner < depth kind

namespace Family

variable {Kind : Type} {family : Family Kind}

theorem flat_of_inner?_eq_none {kind : Kind} {field : Field (family.Message kind)}
    (hfield : field ∈ (family.type kind).fields) (hinner : family.inner? kind field.tag = none) :
    field.Flat := by
  have hfits := List.forall_iff_forall_mem.mp (family.fits kind) field hfield
  rwa [hinner] at hfits

theorem holds_of_inner?_eq_some {kind inner : Kind} {field : Field (family.Message kind)}
    (hfield : field ∈ (family.type kind).fields)
    (hinner : family.inner? kind field.tag = some inner) :
    field.Holds (family.type inner) ∧ family.depth inner < family.depth kind := by
  have hfits := List.forall_iff_forall_mem.mp (family.fits kind) field hfield
  rwa [hinner] at hfits

def tags (family : Family Kind) (kind : Kind) : List Nat :=
  (family.type kind).fields.map Field.tag

/-- Bytes of a message with unknown fields put into them: before, between and behind its fields, and
in the same way into the messages that its fields hold, whose lengths grow with them. -/
inductive Extended (family : Family Kind) : Kind → Bytes → Bytes → Prop
  | nil (kind : Kind) : Extended family kind [] []
  | unknown {kind : Kind} {key : Key} {bytes value original extended : Bytes}
      (htag : key.tag ∉ family.tags kind) (hkey : key.IsSpelling bytes)
      (hvalue : IsValue key.wireType value) (hrest : Extended family kind original extended) :
      Extended family kind original (bytes ++ value ++ extended)
  | flat {kind : Kind} {tag : Nat} {wireType : WireType} {value original extended : Bytes}
      (htag : tag ∈ family.tags kind) (hinner : family.inner? kind tag = none)
      (hvalue : IsValue wireType value) (hrest : Extended family kind original extended) :
      Extended family kind (Field.keyed tag wireType value ++ original)
        (Field.keyed tag wireType value ++ extended)
  | message {kind inner : Kind} {tag : Nat} {payload payload' original extended : Bytes}
      (htag : tag ∈ family.tags kind) (hinner : family.inner? kind tag = some inner)
      (hpayload : Extended family inner payload payload')
      (hrest : Extended family kind original extended) :
      Extended family kind
        (Field.keyed tag .lengthDelimited (Field.delimited payload) ++ original)
        (Field.keyed tag .lengthDelimited (Field.delimited payload') ++ extended)

namespace Extended

variable {kind : Kind} {original extended : Bytes}

theorem length_le (h : Extended family kind original extended) :
    original.length ≤ extended.length := by
  induction h with
  | nil => exact Nat.le_refl _
  | unknown htag hkey hvalue _ ih =>
      simp only [List.length_append]
      omega
  | flat htag hinner hvalue _ ih =>
      simp only [List.length_append]
      omega
  | @message kind inner tag payload payload' original extended htag hinner _ _ ihpayload ihrest =>
      have hprefix := Varint.length_write_le ihpayload
      simp only [Field.keyed, Field.delimited, List.length_append]
      omega

/-- Unknown fields change nothing: by induction on how they were put into the bytes, for every
message that the bytes are merged into. -/
theorem alike (h : Extended family kind original extended) {budget : Nat}
    (hbudget : family.depth kind < budget) (hlength : extended.length < UInt64.size) :
    (family.type kind).Alike budget original extended := by
  induction h generalizing budget with
  | nil => exact MessageType.alike_nil
  | unknown htag hkey hvalue _ ih =>
      simp only [List.length_append] at hlength
      refine MessageType.Alike.insert ?_ (ih hbudget (by omega))
      exact MessageType.carries_unknown (by omega) hkey hvalue htag
  | @flat kind tag wireType value original extended htag hinner hvalue _ ih =>
      simp only [List.length_append] at hlength
      obtain ⟨field, hfield, rfl⟩ := List.mem_map.mp htag
      refine MessageType.Alike.append ?_ (ih hbudget (by omega))
      refine MessageType.alike_keyed (family.wellTagged kind) hfield fun before => ?_
      obtain ⟨outcome, hreads⟩ :=
        (flat_of_inner?_eq_none hfield hinner).reads wireType value hvalue budget before
      exact ⟨outcome, hreads, hreads⟩
  | @message kind inner tag payload payload' original extended htag hinner hpayload _ ihpayload
      ihrest =>
      have hdelimited := Field.length_le_delimited payload'
      have hkeyed := Field.length_le_keyed tag .lengthDelimited (Field.delimited payload')
      have hgrown := hpayload.length_le
      rw [List.length_append] at hlength
      obtain ⟨field, hfield, rfl⟩ := List.mem_map.mp htag
      obtain ⟨hholds, hdepth⟩ := holds_of_inner?_eq_some hfield hinner
      obtain ⟨budget, rfl⟩ := Nat.exists_eq_add_of_lt (Nat.zero_lt_of_lt hbudget)
      rw [Nat.zero_add] at hbudget ⊢
      -- The message inside is read with one less of the budget.
      have hinside := @ihpayload budget (by omega) (by omega)
      refine MessageType.Alike.append ?_ (ihrest hbudget (by omega))
      exact MessageType.alike_keyed (family.wellTagged kind) hfield
        (hinside.reads hholds (by omega) (by omega))

/-- What a field writes can stand before any extension. -/
theorem encode_append {field : Field (family.Message kind)}
    (hfield : field ∈ (family.type kind).fields) {message : family.Message kind}
    (hself : ∀ inner, family.inner? kind field.tag = some inner →
      ∀ message, ((family.type inner).encode message).length < UInt64.size →
        Extended family inner ((family.type inner).encode message)
          ((family.type inner).encode message))
    (hlength : (field.encode message).length < UInt64.size)
    (h : Extended family kind original extended) :
    Extended family kind (field.encode message ++ original) (field.encode message ++ extended) := by
  have htag : field.tag ∈ family.tags kind := List.mem_map_of_mem hfield
  cases hinner : family.inner? kind field.tag with
  | none =>
      have hwrites := (flat_of_inner?_eq_none hfield hinner).writes message hlength
      -- Such a field writes nothing or one value.
      rcases hwrites with hnone | ⟨_, _, hvalue, hsome⟩
      · rwa [hnone]
      · rw [hsome]
        exact .flat htag hinner hvalue h
  | some inner =>
      obtain ⟨⟨label, start, set, values, hsubmessage⟩, -⟩ := holds_of_inner?_eq_some hfield hinner
      have hencode : field.encode message = (values message).flatMap fun value =>
          Field.keyed field.tag .lengthDelimited
            (Field.delimited ((family.type inner).encode value)) := by
        rw [hsubmessage]
        rfl
      rw [hencode] at hlength ⊢
      generalize values message = written at hlength ⊢
      induction written with
      | nil => exact h
      | cons value rest ih =>
          rw [List.flatMap_cons, List.length_append] at hlength
          have hdelimited := Field.length_le_delimited ((family.type inner).encode value)
          have hkeyed := Field.length_le_keyed field.tag .lengthDelimited
            (Field.delimited ((family.type inner).encode value))
          rw [List.flatMap_cons, List.append_assoc, List.append_assoc]
          exact .message htag hinner (hself inner hinner value (by omega)) (ih (by omega))

/-- What is written of a message is extended by itself, with no unknown field. -/
theorem self (kind : Kind) (message : family.Message kind)
    (hlength : ((family.type kind).encode message).length < UInt64.size) :
    Extended family kind ((family.type kind).encode message)
      ((family.type kind).encode message) := by
  induction hdepth : family.depth kind using Nat.strongRecOn generalizing kind with
  | ind depth ih =>
  have hfields : ∀ fields ⊆ (family.type kind).fields,
      (fields.flatMap fun field => field.encode message).length < UInt64.size →
      Extended family kind (fields.flatMap fun field => field.encode message)
        (fields.flatMap fun field => field.encode message) := by
    intro fields hsub hlength
    induction fields with
    | nil => exact .nil kind
    | cons field fields ihfields =>
        obtain ⟨hfield, hrest⟩ := List.cons_subset.mp hsub
        rw [List.flatMap_cons, List.length_append] at hlength
        rw [List.flatMap_cons]
        refine encode_append hfield ?_ (by omega) (ihfields hrest (by omega))
        intro inner hinner value hvalue
        have hinside := (holds_of_inner?_eq_some hfield hinner).2
        exact ih (family.depth inner) (by omega) inner value hvalue rfl
  exact hfields _ (List.Subset.refl _) hlength

end Extended

end Family

end TypedSql.Protobuf
