import Mathlib.Data.List.Perm.Basic
import TypedSql.Options
import TypedSql.Proofs.Json.Parser
import TypedSql.Proofs.Options.Literal
import TypedSql.Proofs.Text.ByteOrder
import TypedSql.Proofs.Text.Keyed
import TypedSql.Proofs.Traversal

/-!
The two syntaxes of options. Both lead to one list by name, so that a JSON object and a literal with
the same pairs mean the same, and only the last value of a key counts. A value that is no text is
a failure in the JSON syntax; since the list is in the order of the names, the failure names the
least key with such a value.
-/

namespace TypedSql.Json

def Value.IsString (value : Value) : Prop :=
  ∃ text, value = .string text

end TypedSql.Json

namespace TypedSql.Options

open Text (lastByName lastValue?)

variable {payload payload' : Bytes} {entries entries' : List (List Json.Piece × Json.Tree)}
  {members members' : List (String × Json.Value)}

/-- The payload is the JSON text of an object with the entries, and begins with it. -/
structure IsObject (payload : Bytes) (entries : List (List Json.Piece × Json.Tree)) : Prop where
  head : payload.head? = some '\x7b'.toUInt8
  tree : Json.parse? payload = some (.object entries)

/-- The entry of an object is written for the member. -/
structure Denotes (entry : List Json.Piece × Json.Tree) (member : String × Json.Value) : Prop where
  name : Json.textOfPieces? entry.1 = some member.1
  value : Json.Value.ofTree? (jsonDepth - 1) entry.2 = some member.2

/-- The payload is the JSON text of an object with the members, in this order. -/
def Lists (payload : Bytes) (members : List (String × Json.Value)) : Prop :=
  ∃ entries, IsObject payload entries ∧ List.Forall₂ Denotes entries members

section Members

def pairOfMember (member : String × Json.Value) : Except Cause (String × String) :=
  match member.2 with
  | .string text => .ok (member.1, text)
  | other => .error (.optionNotString member.1 other.text)

theorem exists_pairOfMember_eq_ok {member : String × Json.Value} :
    (∃ pair, pairOfMember member = .ok pair) ↔ member.2.IsString := by
  obtain ⟨key, value⟩ := member
  cases value <;> simp [pairOfMember, Json.Value.IsString]

theorem pairOfMember_eq_error {member : String × Json.Value} {cause : Cause} :
    pairOfMember member = .error cause ↔
      ¬ member.2.IsString ∧ cause = .optionNotString member.1 member.2.text := by
  obtain ⟨key, value⟩ := member
  cases value <;> simp [pairOfMember, Json.Value.IsString, eq_comm]

theorem ofTree?_object {value : Json.Value} :
    Json.Value.ofTree? jsonDepth (.object entries) = some value ↔
      ∃ members, List.Forall₂ Denotes entries members ∧ .object (lastByName members) = value := by
  have hentry (entry : List Json.Piece × Json.Tree) (member : String × Json.Value) :
      (do return (← Json.textOfPieces? entry.1, ← Json.Value.ofTree? (jsonDepth - 1) entry.2)) =
        some member ↔ Denotes entry member := by
    simp only [Option.bind_eq_bind, Option.bind_eq_some_iff, Option.pure_def, Option.some.injEq]
    constructor
    · rintro ⟨name, hname, value, hvalue, rfl⟩
      exact ⟨hname, hvalue⟩
    · rintro ⟨hname, hvalue⟩
      exact ⟨_, hname, _, hvalue, rfl⟩
  rw [jsonDepth, Json.Value.ofTree?, Option.map_eq_some_iff]
  refine exists_congr fun members => and_congr_left fun _ => ?_
  rw [Traversal.mapM_eq_some]
  exact ⟨List.Forall₂.imp fun entry member => (hentry entry member).mp,
    List.Forall₂.imp fun entry member => (hentry entry member).mpr⟩

theorem pairs_of_isObject (h : IsObject payload entries) :
    pairs payload = pairsOfJson payload := by
  have hne : payload ≠ [] := by
    rintro rfl
    cases h.head
  rw [pairs, if_neg hne, if_pos h.head]

/-- The members that count become pairs one after the other. -/
theorem pairs_of_lists (h : Lists payload members) :
    pairs payload = (lastByName members).mapM pairOfMember := by
  obtain ⟨entries, hobject, hmembers⟩ := h
  rw [pairs_of_isObject hobject, pairsOfJson, hobject.tree, Option.bind_some,
    ofTree?_object.mpr ⟨members, hmembers, rfl⟩]
  refine congrArg (fun f => (lastByName members).mapM f) (funext fun ⟨key, value⟩ => ?_)
  cases value <;> rfl

theorem pairs_of_unreadable (h : IsObject payload entries)
    (hnone : ∀ members, ¬ List.Forall₂ Denotes entries members) :
    pairs payload = .error .optionsNotJson := by
  have htree : Json.Value.ofTree? jsonDepth (.object entries) = none := by
    rw [Option.eq_none_iff_forall_ne_some]
    intro value hvalue
    obtain ⟨members, hmembers, -⟩ := ofTree?_object.mp hvalue
    exact hnone members hmembers
  rw [pairs_of_isObject h, pairsOfJson, h.tree, Option.bind_some, htree]

end Members

theorem parse_congr (h : pairs payload = pairs payload') : parse payload = parse payload' := by
  rw [parse, h, parse]

theorem parse_of_pairs {result : List (String × String)} (h : pairs payload = .ok result) :
    parse payload = ⟨(unknownKeys result).map .unknownOption, .ok (ofPairs result)⟩ := by
  rw [parse, h]

theorem parse_of_error {cause : Cause} (h : pairs payload = .error cause) :
    parse payload = .fail cause := by
  rw [parse, h]

section Texts

def textMembers (pairs : List (String × String)) : List (String × Json.Value) :=
  pairs.map (Prod.map id Json.Value.string)

def item (pair : String × String) : List Char :=
  pair.1.toList ++ '=' :: pair.2.toList

theorem pairs_of_textMembers {given : List (String × String)}
    (h : Lists payload (textMembers given)) :
    pairs payload = .ok (lastByName given) := by
  rw [pairs_of_lists h, textMembers, Text.lastByName_map, Traversal.mapM_eq_ok,
    List.forall₂_map_left_iff, List.forall₂_same]
  exact fun pair _ => rfl

/-- Pairs are written so that they are read as members of an object. -/
theorem lists_text (given : List (String × String)) :
    Lists (Utf8.encode (Json.Value.object (textMembers given)).text) (textMembers given) := by
  have hentries : ∃ entries, List.Forall₂ Json.WrittenMember (textMembers given) entries ∧
      List.Forall₂ Denotes entries (textMembers given) := by
    induction given with
    | nil => exact ⟨[], .nil, .nil⟩
    | cons pair given ih =>
        obtain ⟨entries, hwritten, hdenotes⟩ := ih
        obtain ⟨pieces, hvalue, htext⟩ := Json.exists_written_string pair.2
        obtain ⟨name, hname⟩ := Json.exists_writtenMember pair.1 hvalue
        refine ⟨(name, .string pieces) :: entries, .cons hname hwritten,
          .cons ⟨hname.2.1, ?_⟩ hdenotes⟩
        rw [Json.Value.ofTree?, htext]
        rfl
  obtain ⟨entries, hwritten, hdenotes⟩ := hentries
  refine ⟨entries, ⟨?_, Json.parse?_text (Json.written_object hwritten)⟩, hdenotes⟩
  rw [Json.Value.text, Utf8.encode_ofList, Json.Value.chars, Utf8.encodeChars_cons]
  rfl

theorem pairs_quote (text : String) :
    pairs (Utf8.encode (Literal.quote text)) = .ok (lastByName (pairsOfText text)) := by
  have hbytes : ∃ rest, Utf8.encode (Literal.quote text) = '"'.toUInt8 :: rest := by
    rw [Literal.quote, Utf8.encode_ofList, Utf8.encodeChars_cons]
    exact ⟨_, rfl⟩
  obtain ⟨rest, hrest⟩ := hbytes
  have hliteral : pairs (Utf8.encode (Literal.quote text)) =
      pairsOfLiteral (Utf8.encode (Literal.quote text)) := by
    rw [pairs, hrest, if_neg (List.cons_ne_nil _ _), List.head?_cons,
      if_neg fun h => absurd (Option.some.inj h) (by decide)]
  rw [hliteral, pairsOfLiteral, Utf8.decode?_encode]
  simp only [Literal.unquote?_quote]

theorem pairOfChars_item {pair : String × String} (h : '=' ∉ pair.1.toList) :
    pairOfChars (item pair) = pair := by
  obtain ⟨hkey, hvalue⟩ := Text.split_at_first h pair.2.toList
  rw [pairOfChars, item, hkey, hvalue, List.drop_one, List.tail_cons, String.ofList_toList,
    String.ofList_toList]

/-- The items between the commas are those that were put there, with any empty ones among them. -/
theorem pairsOfText_intercalate {given : List (String × String)} {segments : List (List Char)}
    (hgiven : ∀ pair ∈ given, ',' ∉ pair.1.toList ∧ '=' ∉ pair.1.toList ∧ ',' ∉ pair.2.toList)
    (hsegments : segments.filter (· != []) = given.map item) :
    pairsOfText (String.ofList ([','].intercalate segments)) = given := by
  -- No segments at all are written like one empty segment, which is passed over as well.
  have hsplit : ([','].intercalate segments).splitOn ',' = segments ∨ segments = [] := by
    refine or_iff_not_imp_right.mpr (List.splitOn_intercalate ',' fun segment hmem => ?_)
    by_cases hempty : segment = []
    · rw [hempty]
      exact List.not_mem_nil
    · have hitem : segment ∈ given.map item := by
        rw [← hsegments]
        exact List.mem_filter.mpr ⟨hmem, bne_iff_ne.mpr hempty⟩
      obtain ⟨pair, hpair, rfl⟩ := List.mem_map.mp hitem
      obtain ⟨hkey, -, hvalue⟩ := hgiven pair hpair
      simp [item, hkey, hvalue]
  have hitems : (([','].intercalate segments).splitOn ',').filter (· != []) = given.map item := by
    obtain hsplit | rfl := hsplit
    · rw [hsplit, hsegments]
    · rw [← hsegments]
      rfl
  rw [pairsOfText, String.toList_ofList, hitems, List.map_map]
  conv_rhs => rw [← List.map_id given]
  exact List.map_congr_left fun pair hpair => pairOfChars_item (hgiven pair hpair).2.1

end Texts

section Order

/-- Objects whose keys have the same last values give the same options. -/
theorem pairs_eq_of_lastValue? (h : Lists payload members) (h' : Lists payload' members')
    (hlast : ∀ key, lastValue? members key = lastValue? members' key) :
    pairs payload = pairs payload' := by
  rw [pairs_of_lists h, pairs_of_lists h', Text.lastByName_congr hlast]

def Apart (entry entry' : List Json.Piece × Json.Tree) : Prop :=
  ∀ name, Json.textOfPieces? entry.1 = some name → Json.textOfPieces? entry'.1 ≠ some name

theorem nodup_of_apart (hmembers : List.Forall₂ Denotes entries members)
    (h : entries.Pairwise Apart) : (members.map Prod.fst).Nodup := by
  induction hmembers with
  | nil => exact List.nodup_nil
  | @cons entry member entries members hfirst hrest ih =>
      obtain ⟨hapart, h⟩ := List.pairwise_cons.mp h
      rw [List.map_cons, List.nodup_cons]
      refine ⟨fun hmem => ?_, ih h⟩
      obtain ⟨member', hmember', hname⟩ := List.mem_map.mp hmem
      obtain ⟨entry', hentry', hdenotes⟩ := Traversal.exists_of_mem hrest.flip hmember'
      exact hapart entry' hentry' _ hfirst.name (hname ▸ hdenotes.name)

/-- The order of entries with different names is of no account. -/
theorem pairs_perm (h : IsObject payload entries) (h' : IsObject payload' entries')
    (hperm : entries.Perm entries') (hapart : entries.Pairwise Apart)
    (hmembers : List.Forall₂ Denotes entries members) : pairs payload = pairs payload' := by
  obtain ⟨members', hmembers', hpermMembers⟩ := List.perm_comp_forall₂ hperm.symm hmembers
  exact pairs_eq_of_lastValue? ⟨entries, h, hmembers⟩ ⟨entries', h', hmembers'⟩
    (Text.lastValue?_perm (nodup_of_apart hmembers hapart) hpermMembers.symm)

theorem unreadable_perm (hperm : entries.Perm entries')
    (h : ∀ members, ¬ List.Forall₂ Denotes entries members) (members) :
    ¬ List.Forall₂ Denotes entries' members := by
  intro hmembers
  obtain ⟨members', hmembers', -⟩ := List.perm_comp_forall₂ hperm hmembers
  exact h members' hmembers'

/-- Where the last value of some key is no text, the failure names the least such key. -/
theorem exists_least_of_not_isString (h : Lists payload members) {key : String} {value : Json.Value}
    (hlast : lastValue? members key = some value) (hvalue : ¬ value.IsString) :
    ∃ least value, lastValue? members least = some value ∧ ¬ value.IsString ∧
      (∀ other value, lastValue? members other = some value → ¬ value.IsString →
        other = least ∨ Utf8.encode least < Utf8.encode other) ∧
      pairs payload = .error (.optionNotString least value.text) := by
  simp only [← Text.mem_lastByName] at hlast ⊢
  rw [pairs_of_lists h]
  cases hresult : (lastByName members).mapM pairOfMember with
  | ok given =>
      have hall := Traversal.exists_mapM_eq_ok.mp ⟨given, hresult⟩
      exact absurd (exists_pairOfMember_eq_ok.mp (hall _ hlast)) hvalue
  | error cause =>
      obtain ⟨done, ⟨least, found⟩, rest, hsplit, hdone, hfailing⟩ :=
        Traversal.mapM_eq_error.mp hresult
      obtain ⟨hfound, rfl⟩ := pairOfMember_eq_error.mp hfailing
      have hsorted := Text.pairwise_lastByName members
      rw [hsplit] at hsorted ⊢
      obtain ⟨hrest, -⟩ := List.pairwise_cons.mp (List.pairwise_append.mp hsorted).2.1
      -- Members before the one that fails are texts, and those after it have greater keys.
      refine ⟨least, found, by simp, hfound, fun other value hmem hother => ?_, rfl⟩
      rcases List.mem_append.mp hmem with hmem | hmem
      · exact absurd (exists_pairOfMember_eq_ok.mp (hdone _ hmem)) hother
      · rcases List.mem_cons.mp hmem with hsame | hmem
        · exact .inl (congrArg Prod.fst hsame)
        · exact .inr (Utf8.encode_lt_encode (hrest _ hmem))

end Order

/-- Pairs mean the same as the members of a JSON object and as items of a literal, with any empty
items in between: every option has the last value of its key, or else its default. All texts can be
members of an object. Of any values in an object only the last of each key counts; so the order of
entries with different names is of no account. Where an entry cannot be read, as with half a
surrogate pair, the failures before and after a change of the order are of one kind. If the last
value of some key is no text, the failure names the key for which this is so and whose bytes come
first. -/
theorem parse_lastValues :
    (∀ given segments json,
      (∀ pair ∈ given, ',' ∉ pair.1.toList ∧ '=' ∉ pair.1.toList ∧ ',' ∉ pair.2.toList) →
      segments.filter (· != []) = given.map item → Lists json (textMembers given) →
      parse (Utf8.encode (Literal.quote (String.ofList ([','].intercalate segments)))) =
        parse json ∧
      ∃ options, (parse json).result = .ok options ∧
        options.workersTypes =
          (lastValue? given "workers-types").getD Generator.defaultWorkersTypes ∧
        (options.workersTypesV3 = true ↔ lastValue? given "workers-types-v3" = some "1")) ∧
    (∀ given, Lists (Utf8.encode (Json.Value.object (textMembers given)).text)
      (textMembers given)) ∧
    (∀ payload payload' members members', Lists payload members → Lists payload' members' →
      (∀ key, lastValue? members key = lastValue? members' key) → parse payload = parse payload') ∧
    (∀ payload payload' entries entries' members, IsObject payload entries →
      IsObject payload' entries' → entries.Perm entries' → entries.Pairwise Apart →
      List.Forall₂ Denotes entries members → parse payload = parse payload') ∧
    (∀ payload payload' entries entries', IsObject payload entries → IsObject payload' entries' →
      entries.Perm entries' → (∀ members, ¬ List.Forall₂ Denotes entries members) →
      ∃ failure failure', (parse payload).result = .error failure ∧
        (parse payload').result = .error failure' ∧ failure.kind = "TSD0100" ∧
        failure'.kind = "TSD0100") ∧
    (∀ payload members key value, Lists payload members → lastValue? members key = some value →
      ¬ value.IsString → ∃ least found, lastValue? members least = some found ∧ ¬ found.IsString ∧
        (∀ other value, lastValue? members other = some value → ¬ value.IsString →
          other = least ∨ Utf8.encode least < Utf8.encode other) ∧
        ∃ failure, (parse payload).result = .error failure ∧ failure.kind = "TSD0101" ∧
          failure.cause = .optionNotString least found.text) := by
  refine ⟨fun given segments json hgiven hsegments hjson => ?_, lists_text, ?_, ?_, ?_, ?_⟩
  · have hobject := pairs_of_textMembers hjson
    have hliteral := pairs_quote (String.ofList ([','].intercalate segments))
    rw [pairsOfText_intercalate hgiven hsegments] at hliteral
    refine ⟨parse_congr (hliteral.trans hobject.symm), ofPairs (lastByName given), ?_, ?_, ?_⟩
    · rw [parse_of_pairs hobject]
    · rw [ofPairs, Text.lookup_lastByName]
      rfl
    · simp only [ofPairs, beq_iff_eq, Text.lookup_lastByName]
      rfl
  · intro payload payload' members members' h h' hlast
    exact parse_congr (pairs_eq_of_lastValue? h h' hlast)
  · intro payload payload' entries entries' members h h' hperm hapart hmembers
    exact parse_congr (pairs_perm h h' hperm hapart hmembers)
  · intro payload payload' entries entries' h h' hperm hnone
    -- The failures are of one kind; what a JSON reader says of the two texts may differ.
    have hfails := parse_of_error (pairs_of_unreadable h hnone)
    have hfails' := parse_of_error (pairs_of_unreadable h' (unreadable_perm hperm hnone))
    refine ⟨⟨.optionsNotJson, []⟩, ⟨.optionsNotJson, []⟩, ?_, ?_, rfl, rfl⟩
    · rw [hfails]
      rfl
    · rw [hfails']
      rfl
  · intro payload members key value h hlast hvalue
    obtain ⟨least, found, hfound, hnotString, hleast, herror⟩ :=
      exists_least_of_not_isString h hlast hvalue
    refine ⟨least, found, hfound, hnotString, hleast, ⟨.optionNotString least found.text, []⟩, ?_,
      rfl, rfl⟩
    rw [parse_of_error herror]
    rfl

def repeatedVersion : List (String × String) :=
  [("workers-types", "1"), ("x", "y=z"), ("workers-types-v3", "1"), ("workers-types", "2")]

def flags : List (List Json.Piece × Json.Tree) :=
  [([.byte 'b'.toUInt8], .bool true), ([.byte 'a'.toUInt8], .bool false)]

theorem isObject_flags : IsObject (Utf8.encode "\x7b\"b\":true,\"a\":false\x7d") flags :=
  ⟨by decide +kernel, rfl⟩

theorem denotes_flags : List.Forall₂ Denotes flags [("b", .bool true), ("a", .bool false)] :=
  .cons ⟨by decide +kernel, rfl⟩ (.cons ⟨by decide +kernel, rfl⟩ .nil)

theorem apart_flags : flags.Pairwise Apart := by
  have hfirst : Json.textOfPieces? [.byte 'b'.toUInt8] = some "b" := by decide +kernel
  have hsecond : Json.textOfPieces? [.byte 'a'.toUInt8] = some "a" := by decide +kernel
  refine List.pairwise_pair.mpr ?_
  intro name hname
  obtain rfl := Option.some.inj (hfirst.symm.trans hname)
  rw [hsecond]
  decide

/-- A member whose value has half a surrogate pair, and another one. -/
def halfPair : List (List Json.Piece × Json.Tree) :=
  [([.byte 'a'.toUInt8], .string [.unit 0xd800]), ([.byte 'b'.toUInt8], .null)]

theorem unreadable_halfPair (members) : ¬ List.Forall₂ Denotes halfPair members := by
  intro h
  cases h with
  | cons hfirst _ =>
      have hvalue := hfirst.value
      have hpieces : Json.textOfPieces? [.unit 0xd800] = none := by decide +kernel
      rw [Json.Value.ofTree?, hpieces] at hvalue
      cases hvalue

/-- The options with a repeated version, in both syntaxes; an object with two values that are no
texts, in both orders; and one with half a surrogate pair, in both orders. -/
theorem parse_lastValues_repeatedVersion :
    (parse (Utf8.encode "\",workers-types=1,x=y=z,,workers-types-v3=1,workers-types=2\"") =
        parse (Utf8.encode (Json.Value.object (textMembers repeatedVersion)).text) ∧
      ∃ options,
        (parse (Utf8.encode (Json.Value.object (textMembers repeatedVersion)).text)).result =
          .ok options ∧
        options.workersTypes = "2" ∧ options.workersTypesV3 = true) ∧
    (parse (Utf8.encode "\x7b\"b\":true,\"a\":false\x7d") =
        parse (Utf8.encode "\x7b\"a\":false,\"b\":true\x7d") ∧
      ∃ failure, (parse (Utf8.encode "\x7b\"b\":true,\"a\":false\x7d")).result = .error failure ∧
        failure.kind = "TSD0101") ∧
    ∃ failure failure',
      (parse (Utf8.encode "\x7b\"a\":\"\\ud800\",\"b\":null\x7d")).result = .error failure ∧
      (parse (Utf8.encode "\x7b\"b\":null,\"a\":\"\\ud800\"\x7d")).result = .error failure' ∧
      failure.kind = "TSD0100" ∧ failure'.kind = "TSD0100" := by
  obtain ⟨hsyntaxes, hwritten, -, horder, hunreadable, hfailure⟩ := parse_lastValues
  refine ⟨?_, ⟨?_, ?_⟩, ?_⟩
  · have hliteral : Literal.quote (String.ofList ([','].intercalate (["", "workers-types=1",
        "x=y=z", "", "workers-types-v3=1", "workers-types=2"].map String.toList))) =
          "\",workers-types=1,x=y=z,,workers-types-v3=1,workers-types=2\"" := by
      decide +kernel
    obtain ⟨hsame, options, hoptions, htypes, hthird⟩ := hsyntaxes repeatedVersion
      (["", "workers-types=1", "x=y=z", "", "workers-types-v3=1", "workers-types=2"].map
        String.toList) _ (by decide +kernel) (by decide +kernel) (hwritten repeatedVersion)
    rw [hliteral] at hsame
    exact ⟨hsame, options, hoptions, htypes, hthird.mpr (by decide +kernel)⟩
  · exact horder _ _ flags flags.reverse [("b", .bool true), ("a", .bool false)] isObject_flags
      ⟨by decide +kernel, rfl⟩ flags.reverse_perm.symm apart_flags denotes_flags
  · obtain ⟨least, found, -, -, -, failure, hresult, hkind, -⟩ :=
      hfailure _ _ "b" (.bool true) ⟨flags, isObject_flags, denotes_flags⟩ rfl nofun
    exact ⟨failure, hresult, hkind⟩
  · exact hunreadable _ _ halfPair halfPair.reverse ⟨by decide +kernel, rfl⟩
      ⟨by decide +kernel, rfl⟩ halfPair.reverse_perm.symm unreadable_halfPair

end TypedSql.Options
