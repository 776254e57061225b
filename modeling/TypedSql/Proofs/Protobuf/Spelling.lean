import TypedSql.Protobuf.Message

/-!
What stands in well-formed bytes: numbers, keys, and the values behind keys. A number has more than
one spelling, as groups of zeros may follow its last group. Every reader takes exactly the bytes of
a spelling or of a value, whatever bytes follow them.
-/

namespace TypedSql.Protobuf

/-- Bytes that spell a number with at most `groups` groups, of which the last possible one has one
bit. -/
inductive Varint.Spells : (groups : Nat) → Bytes → Nat → Prop
  | last {groups : Nat} (byte : UInt8) (hbyte : byte < 0x80) (hlast : groups = 0 → byte ≤ 1) :
      Spells (groups + 1) [byte] byte.toNat
  | more {groups high : Nat} {bytes : Bytes} (byte : UInt8) (hbyte : 0x80 ≤ byte)
      (hrest : Spells groups bytes high) :
      Spells (groups + 1) (byte :: bytes) (byte.toNat - 128 + 128 * high)

namespace Varint

variable {groups n : Nat} {bytes : Bytes}

theorem Spells.readGroups? (h : Spells groups bytes n) (rest : Bytes) :
    readGroups? groups (.ofBytes (bytes ++ rest)) = some (n, .ofBytes rest) := by
  induction h with
  | @last groups byte hbyte hlast =>
      have hfits : ¬ (groups = 0 ∧ 1 < byte) := fun ⟨hgroups, hlarge⟩ =>
        absurd (hlast hgroups) (UInt8.not_le.mpr hlarge)
      rw [Varint.readGroups?]
      simp only [List.cons_append, List.nil_append, Input.next?_ofBytes_cons]
      rw [if_pos hbyte, if_neg hfits]
  | @more groups high bytes byte hbyte _ ih =>
      rw [Varint.readGroups?]
      simp only [List.cons_append, Input.next?_ofBytes_cons]
      rw [if_neg (UInt8.not_lt.mpr hbyte), ih]

/-- A number that is written is spelled. -/
theorem spells_write (groups n : Nat) (h : n < limit groups) : Spells (groups + 1) (write n) n := by
  induction groups generalizing n with
  | zero =>
      have hsmall : n = 0 ∨ n = 1 := by
        simp only [limit] at h
        omega
      rcases hsmall with rfl | rfl
      · rw [write]
        exact .last 0 (by decide) (fun _ => by decide)
      · rw [write]
        exact .last 1 (by decide) (fun _ => by decide)
  | succ groups ih =>
      rw [write]
      split
      · next hsmall =>
          have hvalue : (UInt8.ofNat n).toNat = n := by
            rw [UInt8.toNat_ofNat']
            omega
          have hlow : UInt8.ofNat n < 0x80 := by
            rw [UInt8.lt_iff_toNat_lt, hvalue]
            simpa using hsmall
          have hlast := @Spells.last (groups + 1) (UInt8.ofNat n) hlow (by omega)
          rwa [hvalue] at hlast
      · next hlarge =>
          have hvalue : (UInt8.ofNat (n % 128 + 128)).toNat = n % 128 + 128 := by
            rw [UInt8.toNat_ofNat']
            omega
          have hhigh : 0x80 ≤ UInt8.ofNat (n % 128 + 128) := by
            rw [UInt8.le_iff_toNat_le, hvalue]
            simp
          have hrest : n / 128 < limit groups := by
            simp only [limit] at h
            omega
          have hmore := Spells.more _ hhigh (ih _ hrest)
          have hnumber : n % 128 + 128 - 128 + 128 * (n / 128) = n := by omega
          rwa [hvalue, hnumber] at hmore

/-- A larger number is not written with fewer groups. -/
theorem length_write_le {m n : Nat} (h : m ≤ n) : (write m).length ≤ (write n).length := by
  induction n using Nat.strongRecOn generalizing m with
  | ind n ih =>
      rw [write.eq_def m, write.eq_def n]
      split
      · split
        · simp
        · simp
      · have hrest := ih (n / 128) (by omega) (Nat.div_le_div_right h)
        rw [if_neg (by omega), List.length_cons, List.length_cons]
        omega

def IsSpelling (bytes : Bytes) (n : Nat) : Prop :=
  Spells maxGroups bytes n

theorem isSpelling_write {n : Nat} (h : n < UInt64.size) : IsSpelling (write n) n :=
  spells_write 9 n h

theorem IsSpelling.readVarint (h : IsSpelling bytes n) (rest : Bytes) :
    readVarint (.ofBytes (bytes ++ rest)) = .ok (n, .ofBytes rest) := by
  have hread : read? (.ofBytes (bytes ++ rest)) = some (n, .ofBytes rest) :=
    Spells.readGroups? h rest
  rw [Protobuf.readVarint, hread]

theorem IsSpelling.ne_nil (h : IsSpelling bytes n) : bytes ≠ [] := by
  cases h with
  | last => simp
  | more => simp

end Varint

structure Key.IsSpelling (key : Key) (bytes : Bytes) : Prop where
  number : Varint.IsSpelling bytes (key.tag * 8 + key.wireType.code)
  positive : 0 < key.tag
  small : key.tag < 0x20000000

theorem Key.isSpelling_write {key : Key} (hpositive : 0 < key.tag)
    (hsmall : key.tag < 0x20000000) : key.IsSpelling key.write := by
  have hcode := key.wireType.code_lt
  have hnumber : key.tag * 8 + key.wireType.code < UInt64.size := by
    rw [show UInt64.size = 18446744073709551616 from rfl]
    omega
  exact ⟨Varint.isSpelling_write hnumber, hpositive, hsmall⟩

theorem Key.IsSpelling.readKey {key : Key} {bytes : Bytes} (h : key.IsSpelling bytes)
    (rest : Bytes) : readKey (.ofBytes (bytes ++ rest)) = .ok (key, .ofBytes rest) := by
  rw [Protobuf.readKey, h.number.readVarint]
  simp only [Key.ofNat_number h.positive h.small]

/-- The bytes of a value behind a key. Groups are no values, as keys of their own end them. -/
inductive IsValue : WireType → Bytes → Prop
  | varint {bytes : Bytes} {n : Nat} (h : Varint.IsSpelling bytes n) : IsValue .varint bytes
  | fixed64 {bytes : Bytes} (h : bytes.length = 8) : IsValue .fixed64 bytes
  | lengthDelimited {length payload : Bytes} (h : Varint.IsSpelling length payload.length) :
      IsValue .lengthDelimited (length ++ payload)
  | fixed32 {bytes : Bytes} (h : bytes.length = 4) : IsValue .fixed32 bytes

theorem readPayload_spelled {length payload : Bytes}
    (h : Varint.IsSpelling length payload.length) (rest : Bytes) :
    readPayload (.ofBytes (length ++ payload ++ rest)) = .ok (payload, .ofBytes rest) := by
  rw [readPayload, List.append_assoc, h.readVarint]
  simp only [Input.left_ofBytes, Input.bytes_ofBytes, List.take_left]
  rw [if_neg (by simp), Input.eq_ofBytes (Input.drop _ _), Input.bytes_drop, Input.bytes_ofBytes,
    List.drop_left]

theorem skipBytes_length (bytes rest : Bytes) :
    skipBytes bytes.length (.ofBytes (bytes ++ rest)) = .ok (.ofBytes rest) := by
  rw [skipBytes, if_neg (by simp), Input.eq_ofBytes (Input.drop _ _), Input.bytes_drop,
    Input.bytes_ofBytes, List.drop_left]

/-- Passing over a value takes exactly its bytes. -/
theorem IsValue.skipValue {wireType : WireType} {bytes : Bytes} (h : IsValue wireType bytes)
    (rest : Bytes) : skipValue wireType (.ofBytes (bytes ++ rest)) = .ok (.ofBytes rest) := by
  cases h with
  | varint h => simp only [Protobuf.skipValue, h.readVarint, Except.map]
  | fixed64 h =>
      rw [Protobuf.skipValue, ← h]
      exact skipBytes_length bytes rest
  | lengthDelimited h => simp only [Protobuf.skipValue, readPayload_spelled h, Except.map]
  | fixed32 h =>
      rw [Protobuf.skipValue, ← h]
      exact skipBytes_length bytes rest

/-- An unknown field with a value is passed over, unless nothing may be nested any more. -/
theorem IsValue.skipField {budget : Nat} {key : Key} {bytes : Bytes}
    (h : IsValue key.wireType bytes) (hbudget : 0 < budget) (rest : Bytes) :
    skipField budget key (.ofBytes (bytes ++ rest)) = .ok (.ofBytes rest) := by
  rw [Protobuf.skipField, if_neg (by omega)]
  split
  · next hgroup =>
      rw [hgroup] at h
      cases h
  · exact h.skipValue rest

end TypedSql.Protobuf
