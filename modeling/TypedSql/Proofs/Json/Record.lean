import Mathlib.Data.List.Forall2
import TypedSql.Json.Record
import TypedSql.Proofs.Json.Parser

/-!
Typed values as JSON and back. A codec round-trips if every value is read back from the tree of what
is written of it. For a record, the members are read in the order in which they are written, each
into what the ones before it have made of the blank record; a member that is not written leaves the
record alone. Hence the codec of a record round-trips as soon as those of its members do.
-/

namespace TypedSql.Json

variable {α R : Type}

/-- What is written of a value is read back. It is never null, which would be taken for no value. -/
def Codec.RoundTrips (codec : Codec α) : Prop :=
  ∀ value, ∃ tree, Written (codec.write value) tree ∧ tree ≠ .null ∧ codec.read? tree = some value

theorem textCodec_roundTrips : textCodec.RoundTrips := by
  intro text
  obtain ⟨pieces, hwritten, htext⟩ := exists_written_string text
  exact ⟨.string pieces, hwritten, nofun, htext⟩

theorem boolCodec_roundTrips : boolCodec.RoundTrips :=
  fun value => ⟨.bool value, written_bool value, nofun, rfl⟩

theorem wordCodec_roundTrips : wordCodec.RoundTrips := by
  intro value
  refine ⟨.number (.ofNat value.toNat), written_natural value.toNat, nofun, ?_⟩
  simp only [wordCodec, below?_ofNat value.toNat_lt, Option.map_some, UInt32.ofNat_toNat]

theorem Codec.RoundTrips.list {codec : Codec α} (h : codec.RoundTrips) :
    (listCodec codec).RoundTrips := by
  intro values
  have htrees : ∃ trees, List.Forall₂ Written (values.map codec.write) trees ∧
      trees.mapM codec.read? = some values := by
    induction values with
    | nil => exact ⟨[], .nil, rfl⟩
    | cons value values ih =>
        obtain ⟨tree, hwritten, -, hread⟩ := h value
        obtain ⟨trees, hrest, hreadRest⟩ := ih
        refine ⟨tree :: trees, .cons hwritten hrest, ?_⟩
        rw [List.mapM_cons, hread, hreadRest]
        rfl
  obtain ⟨trees, hwritten, hread⟩ := htrees
  exact ⟨.array trees, written_array hwritten, nofun, hread⟩

namespace Member

variable {source before middle after : R} {name : String} {codec : Codec α}

/-- Reading what a member writes of `source` turns `before` into `after`. -/
inductive Restores (source : R) (member : Member R) (before : R) : R → Prop
  | leftOut (hwrite : member.write? source = none) (hoptional : member.required = false) :
      Restores source member before before
  | written {value : Value} {tree : Tree} {after : R} (hwrite : member.write? source = some value)
      (hwritten : Written value tree) (hread : member.read? tree before = some after) :
      Restores source member before after

theorem restores_field {get : R → α} {set : α → R → R} (h : codec.RoundTrips) :
    Restores source (field name codec get set) before (set (get source) before) := by
  obtain ⟨tree, hwritten, -, hread⟩ := h (get source)
  exact .written rfl hwritten (by simp only [field, hread, Option.map_some])

theorem restores_defaulted {get : R → α} {set : α → R → R} (h : codec.RoundTrips) :
    Restores source (defaulted name codec get set) before (set (get source) before) := by
  obtain ⟨tree, hwritten, -, hread⟩ := h (get source)
  exact .written rfl hwritten (by simp only [defaulted, field, hread, Option.map_some])

/-- A member without a value is not written, and `before` has no value either. -/
theorem restores_optional {get : R → Option α} {set : Option α → R → R} (h : codec.RoundTrips)
    (hbefore : set none before = before) :
    Restores source (optional name codec get set) before (set (get source) before) := by
  cases hvalue : get source with
  | none =>
      rw [hbefore]
      exact .leftOut (by simp only [optional, hvalue, Option.map_none]) rfl
  | some value =>
      obtain ⟨tree, hwritten, hnull, hread⟩ := h value
      refine .written (by simp only [optional, hvalue, Option.map_some]) hwritten ?_
      cases tree with
      | null => exact absurd rfl hnull
      | _ => simp only [optional, hread, Option.map_some]

inductive RestoreAll (source : R) : List (Member R) → R → R → Prop
  | nil (value : R) : RestoreAll source [] value value
  | cons {member : Member R} {members : List (Member R)} {before middle after : R} :
      Restores source member before middle →
      RestoreAll source members middle after →
      RestoreAll source (member :: members) before after

end Member

namespace Record

variable {record : Record R} {source before after : R} {front members : List (Member R)}
  {member : Member R}

def writtenMembers (source : R) (members : List (Member R)) : List (String × Value) :=
  members.filterMap fun m => (m.write? source).map fun written => (m.name, written)

theorem find?_name (hnames : (record.members.map Member.name).Nodup)
    (hsplit : record.members = front ++ member :: members) :
    record.members.find? (fun m => m.name == member.name) = some member ∧
      member.name ∉ front.map Member.name := by
  rw [hsplit, List.map_append, List.map_cons] at hnames
  have hfront : member.name ∉ front.map Member.name := by
    intro hmem
    exact (List.nodup_append.mp hnames).2.2 _ hmem _ (by simp) rfl
  refine ⟨?_, hfront⟩
  rw [List.find?_eq_some_iff_append]
  refine ⟨beq_self_eq_true _, front, members, hsplit, ?_⟩
  intro other hother
  simp only [Bool.not_eq_true', beq_eq_false_iff_ne]
  intro hname
  exact hfront (hname ▸ List.mem_map_of_mem hother)

/-- Of the members in front, nothing but their names was seen, and every required one was. -/
structure Seen (front : List (Member R)) (seen : List String) : Prop where
  subset : seen ⊆ front.map Member.name
  required : ∀ m ∈ front, m.required = true → m.name ∈ seen

theorem Seen.leftOut {seen : List String} (h : Seen front seen)
    (hoptional : member.required = false) : Seen (front ++ [member]) seen where
  subset := by
    rw [List.map_append]
    exact List.subset_append_of_subset_left _ h.subset
  required m hm hreq := by
    rcases List.mem_append.mp hm with hm | hm
    · exact h.required m hm hreq
    · rw [List.mem_singleton.mp hm, hoptional] at hreq
      cases hreq

theorem Seen.read {seen : List String} (h : Seen front seen) :
    Seen (front ++ [member]) (member.name :: seen) where
  subset := by
    rw [List.map_append, List.map_singleton]
    exact List.cons_subset.mpr ⟨by simp, List.subset_append_of_subset_left _ h.subset⟩
  required m hm hreq := by
    rcases List.mem_append.mp hm with hm | hm
    · exact List.mem_cons_of_mem _ (h.required m hm hreq)
    · rw [List.mem_singleton.mp hm]
      exact List.mem_cons_self

/-- The members from some point on are read as they were written. -/
theorem exists_entries (hnames : (record.members.map Member.name).Nodup)
    (h : Member.RestoreAll source members before after)
    (hsplit : record.members = front ++ members) :
    ∃ entries, List.Forall₂ WrittenMember (writtenMembers source members) entries ∧
      ∀ seen, Seen front seen → record.readObject? seen before entries = some after := by
  -- What is carried along is that the reader has seen nothing but members in front.
  induction h generalizing front with
  | nil value =>
      refine ⟨[], .nil, fun seen hseen => ?_⟩
      rw [List.append_nil] at hsplit
      rw [readObject?, if_pos (List.all_eq_true.mpr ?_)]
      intro m hm
      cases hreq : m.required with
      | false => rfl
      | true => simpa using hseen.required m (hsplit ▸ hm) hreq
  | @cons member members before middle after hmember _ ih =>
      obtain ⟨hfind, hfront⟩ := find?_name hnames hsplit
      have hnext : record.members = (front ++ [member]) ++ members := by
        rw [hsplit, List.append_assoc, List.singleton_append]
      obtain ⟨entries, hentries, hread⟩ := ih hnext
      cases hmember with
      | leftOut hwrite hoptional =>
          refine ⟨entries, ?_, fun seen hseen => hread seen (hseen.leftOut hoptional)⟩
          rwa [writtenMembers, List.filterMap_cons_none (by rw [hwrite]; rfl)]
      | @written value tree _ hwrite hwritten hvalue =>
          obtain ⟨pieces, hentry⟩ := exists_writtenMember member.name hwritten
          refine ⟨(pieces, tree) :: entries, ?_, fun seen hseen => ?_⟩
          · rw [writtenMembers, List.filterMap_cons_some (by rw [hwrite]; rfl)]
            exact .cons hentry hentries
          · have hfresh : seen.contains member.name = false := by
              simpa using fun hmem => hfront (hseen.subset hmem)
            rw [readObject?, hentry.2.1]
            simp only [hfind, hfresh, hvalue, Bool.false_eq_true, if_false]
            exact hread _ hseen.read

/-- A record round-trips if its members have different names and rebuild every record from the blank
one. -/
theorem codec_roundTrips (hnames : (record.members.map Member.name).Nodup)
    (h : ∀ source, Member.RestoreAll source record.members record.blank source) :
    record.codec.RoundTrips := by
  intro source
  obtain ⟨entries, hentries, hread⟩ := exists_entries hnames (h source) (List.nil_append _).symm
  exact ⟨.object entries, written_object hentries, nofun,
    hread [] ⟨List.nil_subset _, nofun⟩⟩

theorem readBytes?_writeText (h : record.codec.RoundTrips) (value : R) :
    record.readBytes? (Utf8.encode (record.writeText value)) = some value := by
  obtain ⟨tree, hwritten, -, hread⟩ := h value
  rw [readBytes?, writeText, parse?_text hwritten, Option.bind_some, hread]

end Record

end TypedSql.Json
