import TypedSql.Proofs.Plugin.RequestRoundTrip
import TypedSql.Proofs.Protobuf.UnknownFields

/-!
A compiler may send fields that this generator does not know. The messages of a request are a family
of twelve types, so such fields change nothing, wherever in the request they stand.
-/

namespace TypedSql.Plugin

open Protobuf (Family Field Key MessageType)

inductive RequestPart where
  | request
  | settings
  | override
  | codegen
  | wasm
  | catalog
  | schema
  | table
  | column
  | identifier
  | query
  | parameter
deriving DecidableEq

namespace RequestPart

def Message : RequestPart → Type
  | request => Request
  | settings => Settings
  | override => Override
  | codegen => Codegen
  | wasm => Wasm
  | catalog => Catalog
  | schema => Schema
  | table => Table
  | column => Column
  | identifier => Identifier
  | query => Query
  | parameter => Parameter

def type : (part : RequestPart) → MessageType part.Message
  | request => Request.messageType
  | settings => Settings.messageType
  | override => Override.messageType
  | codegen => Codegen.messageType
  | wasm => Wasm.messageType
  | catalog => Catalog.messageType
  | schema => Schema.messageType
  | table => Table.messageType
  | column => Column.messageType
  | identifier => Identifier.messageType
  | query => Query.messageType
  | parameter => Parameter.messageType

def inner? : RequestPart → Nat → Option RequestPart
  | request, 1 => some settings
  | request, 2 => some catalog
  | request, 3 => some query
  | settings, 6 => some override
  | settings, 12 => some codegen
  | codegen, 6 => some wasm
  | catalog, 4 => some schema
  | schema, 3 => some table
  | table, 1 => some identifier
  | table, 2 => some column
  | column, 10 => some identifier
  | column, 12 => some identifier
  | column, 14 => some identifier
  | query, 4 => some column
  | query, 5 => some parameter
  | parameter, 2 => some column
  | _, _ => none

/-- How deep messages lie inside each other below a part. -/
def depth : RequestPart → Nat
  | override => 0
  | wasm => 0
  | identifier => 0
  | codegen => 1
  | column => 1
  | settings => 2
  | table => 2
  | parameter => 2
  | schema => 3
  | query => 3
  | catalog => 4
  | request => 5

def family : Family RequestPart where
  Message := Message
  type := type
  inner? := inner?
  depth := depth
  depth_lt part := by cases part <;> decide
  wellTagged part := by cases part <;> decide
  fits part := by
    cases part with
    | override => exact ⟨Field.flat_text, Field.flat_text, Field.flat_bool, Field.flat_text⟩
    | wasm => exact ⟨Field.flat_text, Field.flat_text⟩
    | identifier => exact ⟨Field.flat_text, Field.flat_text, Field.flat_text⟩
    | codegen =>
        exact ⟨Field.flat_text, Field.flat_text, Field.flat_bytes, Field.holds_message, by decide⟩
    | settings =>
        exact ⟨Field.flat_text, Field.flat_text, ⟨Field.holds_messages, by decide⟩,
          Field.holds_message, by decide⟩
    | column =>
        exact ⟨Field.flat_text, Field.flat_bool, Field.flat_bool, ⟨Field.holds_message, by decide⟩,
          ⟨Field.holds_message, by decide⟩, Field.flat_bool, Field.holds_message, by decide⟩
    | table => exact ⟨⟨Field.holds_message, by decide⟩, Field.holds_messages, by decide⟩
    | schema => exact ⟨Field.flat_text, Field.holds_messages, by decide⟩
    | catalog => exact ⟨Field.flat_text, Field.holds_messages, by decide⟩
    | parameter => exact ⟨Field.flat_int32, Field.holds_message, by decide⟩
    | query =>
        exact ⟨Field.flat_text, Field.flat_text, Field.flat_text, ⟨Field.holds_messages, by decide⟩,
          Field.holds_messages, by decide⟩
    | request =>
        exact ⟨⟨Field.holds_message, by decide⟩, ⟨Field.holds_message, by decide⟩,
          ⟨Field.holds_messages, by decide⟩, Field.flat_text, Field.flat_bytes⟩

end RequestPart

/-- Unknown fields change nothing. Every request as it is written can be extended by fields that its
messages do not declare, in any number, between any two fields and in messages at any depth. Such
bytes are decoded to the same request, and so they have the same result, also where this is a
failure. The bound is no restriction on bytes that exist: their number has sixty-four bits. -/
theorem decodeRequest_extended (request : Request) (extended : Bytes)
    (hextended :
      RequestPart.family.Extended .request (Request.messageType.encode request) extended)
    (hlength : extended.length < UInt64.size) :
    RequestPart.family.Extended .request (Request.messageType.encode request)
        (Request.messageType.encode request) ∧
      Request.messageType.decode extended = .ok request ∧
      decodeRequest extended = decodeRequest (Request.messageType.encode request) := by
  have hencoded : (Request.messageType.encode request).length < UInt64.size :=
    Nat.lt_of_le_of_lt hextended.length_le hlength
  have halike := hextended.alike (RequestPart.family.depth_lt RequestPart.request) hlength
  have hsame : Request.messageType.decode extended =
      Request.messageType.decode (Request.messageType.encode request) := halike.decode_eq
  have hdecode : Request.messageType.decode (Request.messageType.encode request) = .ok request :=
    Request.roundTrips.decode_encode (by decide) hencoded
  have hself : RequestPart.family.Extended .request (Request.messageType.encode request)
      (Request.messageType.encode request) :=
    @Family.Extended.self _ RequestPart.family RequestPart.request request hencoded
  refine ⟨hself, hsame.trans hdecode, ?_⟩
  rw [decodeRequest, decodeRequest, hsame]

def songQueryRequest : Request where
  catalog := some { schemas := [{ tables := [{ rel := some { name := "song" } }] }] }
  queries := [{ name := "Play" }]

/-- The request with a number in the identifier of the table, a payload before the name of the
query, and fixed bytes at both ends. -/
def songQueryExtended : Bytes :=
  [0x35, 1, 2, 3, 4, 0x12, 0x0F, 0x22, 0x0D, 0x1A, 0x0B, 0x0A, 0x09, 0x1A, 0x04] ++
    Utf8.encode "song" ++
    [0x20, 0x80, 0x00, 0x1A, 0x0B, 0x3A, 0x82, 0x00, 0xFF, 0x00, 0x12, 0x04] ++
    Utf8.encode "Play" ++ [0x31, 1, 2, 3, 4, 5, 6, 7, 8]

theorem decodeRequest_extended_songQueryRequest :
    RequestPart.family.Extended .request (Request.messageType.encode songQueryRequest)
        songQueryExtended ∧
      songQueryExtended ≠ Request.messageType.encode songQueryRequest ∧
      Request.messageType.decode songQueryExtended = .ok songQueryRequest ∧
      decodeRequest songQueryExtended =
        decodeRequest (Request.messageType.encode songQueryRequest) := by
  have hsong : Protobuf.IsValue .lengthDelimited (Field.delimited (Utf8.encode "song")) :=
    Field.isValue_delimited (by decide +kernel)
  have hplay : Protobuf.IsValue .lengthDelimited (Field.delimited (Utf8.encode "Play")) :=
    Field.isValue_delimited (by decide +kernel)
  -- Both numbers end with a group of zeros that they do not need.
  have hzero : Protobuf.Varint.IsSpelling [0x80, 0x00] 0 :=
    .more 0x80 (by decide) (.last 0x00 (by decide) (by decide))
  have htwo : Protobuf.Varint.IsSpelling [0x82, 0x00] 2 :=
    .more 0x82 (by decide) (.last 0x00 (by decide) (by decide))
  have hpayload : Protobuf.IsValue .lengthDelimited ([0x82, 0x00] ++ [0xFF, 0x00]) :=
    .lengthDelimited htwo
  have hfixed32 : Protobuf.IsValue .fixed32 [1, 2, 3, 4] := .fixed32 rfl
  have hfixed64 : Protobuf.IsValue .fixed64 [1, 2, 3, 4, 5, 6, 7, 8] := .fixed64 rfl
  have hkey : ∀ key : Key, 0 < key.tag ∧ key.tag < 0x20000000 → key.IsSpelling key.write :=
    fun key h => Key.isSpelling_write h.1 h.2
  have hidentifier : RequestPart.family.Extended .identifier _ _ :=
    .flat (by decide : 3 ∈ RequestPart.family.tags .identifier) rfl hsong
      (.unknown (by decide) (hkey ⟨4, .varint⟩ (by decide)) (.varint hzero) (.nil _))
  have htable : RequestPart.family.Extended .table _ _ :=
    .message (by decide : 1 ∈ RequestPart.family.tags .table) rfl hidentifier (.nil _)
  have hschema : RequestPart.family.Extended .schema _ _ :=
    .message (by decide : 3 ∈ RequestPart.family.tags .schema) rfl htable (.nil _)
  have hcatalog : RequestPart.family.Extended .catalog _ _ :=
    .message (by decide : 4 ∈ RequestPart.family.tags .catalog) rfl hschema (.nil _)
  have hquery : RequestPart.family.Extended .query _ _ :=
    .unknown (by decide) (hkey ⟨7, .lengthDelimited⟩ (by decide)) hpayload
      (.flat (by decide : 2 ∈ RequestPart.family.tags .query) rfl hplay (.nil _))
  have hend : RequestPart.family.Extended .request _ _ :=
    .unknown (by decide) (hkey ⟨6, .fixed64⟩ (by decide)) hfixed64 (.nil _)
  have hrequest : RequestPart.family.Extended .request _ _ :=
    .unknown (by decide) (hkey ⟨6, .fixed32⟩ (by decide)) hfixed32
      (.message (by decide : 2 ∈ RequestPart.family.tags .request) rfl hcatalog
        (.message (by decide : 3 ∈ RequestPart.family.tags .request) rfl hquery hend))
  have hextended : RequestPart.family.Extended .request
      (Request.messageType.encode songQueryRequest) songQueryExtended := by
    convert hrequest using 1
    · decide +kernel
    · decide +kernel
  obtain ⟨-, hdecode, hresult⟩ :=
    decodeRequest_extended songQueryRequest songQueryExtended hextended (by decide +kernel)
  exact ⟨hextended, by decide +kernel, hdecode, hresult⟩

end TypedSql.Plugin
