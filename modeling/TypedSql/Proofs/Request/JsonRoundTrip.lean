import TypedSql.Generate
import TypedSql.Proofs.Json.Record
import TypedSql.Proofs.Plugin.RequestRoundTrip

/-!
Requests as JSON and back. The text of a request is read as exactly this request, so a request that
came in the exchange format may be kept as JSON: the files for it, or the failure, are the same.
-/

namespace TypedSql

open Json (Member Record boolCodec_roundTrips textCodec_roundTrips wordCodec_roundTrips)

theorem Identifier.codec_roundTrips : Identifier.record.codec.RoundTrips :=
  Record.codec_roundTrips (by decide) fun identifier =>
    .cons (Member.restores_field textCodec_roundTrips) <|
    .nil identifier

theorem Column.codec_roundTrips : Column.record.codec.RoundTrips :=
  Record.codec_roundTrips (by decide) fun column =>
    .cons (Member.restores_field textCodec_roundTrips) <|
    .cons (Member.restores_defaulted textCodec_roundTrips) <|
    .cons (Member.restores_defaulted boolCodec_roundTrips) <|
    .cons (Member.restores_defaulted boolCodec_roundTrips) <|
    .cons (Member.restores_optional Identifier.codec_roundTrips rfl) <|
    .cons (Member.restores_optional Identifier.codec_roundTrips rfl) <|
    .nil column

theorem Table.codec_roundTrips : Table.record.codec.RoundTrips :=
  Record.codec_roundTrips (by decide) fun table =>
    .cons (Member.restores_field Identifier.codec_roundTrips) <|
    .cons (Member.restores_defaulted Column.codec_roundTrips.list) <|
    .nil table

theorem Schema.codec_roundTrips : Schema.record.codec.RoundTrips :=
  Record.codec_roundTrips (by decide) fun schema =>
    .cons (Member.restores_defaulted textCodec_roundTrips) <|
    .cons (Member.restores_defaulted Table.codec_roundTrips.list) <|
    .nil schema

theorem Catalog.codec_roundTrips : Catalog.record.codec.RoundTrips :=
  Record.codec_roundTrips (by decide) fun catalog =>
    .cons (Member.restores_defaulted Schema.codec_roundTrips.list) <|
    .nil catalog

theorem Command.codec_roundTrips : Command.codec.RoundTrips := by
  intro command
  obtain ⟨pieces, hwritten, htext⟩ := Json.exists_written_string command.keyword
  refine ⟨.string pieces, hwritten, nofun, ?_⟩
  simp only [Command.codec, htext, Option.bind_some, Command.ofKeyword?_keyword]

theorem Param.codec_roundTrips : Param.record.codec.RoundTrips :=
  Record.codec_roundTrips (by decide) fun param =>
    .cons (Member.restores_field wordCodec_roundTrips) <|
    .cons (Member.restores_field Column.codec_roundTrips) <|
    .nil param

theorem Query.codec_roundTrips : Query.record.codec.RoundTrips :=
  Record.codec_roundTrips (by decide) fun query =>
    .cons (Member.restores_field textCodec_roundTrips) <|
    .cons (Member.restores_field Command.codec_roundTrips) <|
    .cons (Member.restores_field textCodec_roundTrips) <|
    .cons (Member.restores_defaulted Param.codec_roundTrips.list) <|
    .cons (Member.restores_defaulted Column.codec_roundTrips.list) <|
    .nil query

theorem TypeOverride.codec_roundTrips : TypeOverride.record.codec.RoundTrips :=
  Record.codec_roundTrips (by decide) fun override =>
    .cons (Member.restores_field textCodec_roundTrips) <|
    .cons (Member.restores_field textCodec_roundTrips) <|
    .nil override

theorem Options.codec_roundTrips : Options.record.codec.RoundTrips :=
  Record.codec_roundTrips (by decide) fun options =>
    .cons (Member.restores_defaulted textCodec_roundTrips) <|
    .cons (Member.restores_defaulted boolCodec_roundTrips) <|
    .nil options

theorem Request.codec_roundTrips : Request.record.codec.RoundTrips :=
  Record.codec_roundTrips (by decide) fun request =>
    .cons (Member.restores_defaulted textCodec_roundTrips) <|
    .cons (Member.restores_defaulted textCodec_roundTrips) <|
    .cons (Member.restores_defaulted Options.codec_roundTrips) <|
    .cons (Member.restores_defaulted TypeOverride.codec_roundTrips.list) <|
    .cons (Member.restores_defaulted Catalog.codec_roundTrips) <|
    .cons (Member.restores_defaulted Query.codec_roundTrips.list) <|
    .nil request

theorem loadRequest_writeText (request : Request) :
    loadRequest .json (Utf8.encode (Request.record.writeText request)) = .done request := by
  rw [loadRequest, Request.ofJson, Record.readBytes?_writeText Request.codec_roundTrips]
  rfl

theorem result_generateFrom (format : RequestFormat) (bytes : Bytes) :
    (generateFrom format bytes).result =
      (loadRequest format bytes).result.bind fun request => (generate request).result :=
  Traced.result_andThen (loadRequest format bytes) generate

/-- A request is read back from its JSON text, whatever it holds. So for bytes of the exchange
format that hold a request, the text of this request leads to the same files or to the same
failure. -/
theorem json_faithful :
    (∀ request : Request,
      loadRequest .json (Utf8.encode (Request.record.writeText request)) = .done request) ∧
    ∀ (bytes : Bytes) (request : Request), (loadRequest .protobuf bytes).result = .ok request →
      (generateFrom .json (Utf8.encode (Request.record.writeText request))).result =
        (generateFrom .protobuf bytes).result := by
  refine ⟨loadRequest_writeText, ?_⟩
  intro bytes request hrequest
  rw [result_generateFrom, result_generateFrom, loadRequest_writeText, hrequest]
  rfl

def albumMessage : Plugin.Request where
  sqlcVersion := "v1.25.0"
  queries := [{
    name := "ListÁlbum"
    cmd := ":many"
    text := "SELECT \"id\"\n\tFROM álbum\\\x01"
    params := [{ number := 2147483647, column := some { name := "ids", isSqlcSlice := true } }]
    columns := [{ name := "álbum", embedTable := some { name := "álbum" } }] }]

def albumRequest : Request where
  sqlcVersion := "v1.25.0"
  queries := [{
    name := "ListÁlbum"
    command := .many
    text := "SELECT \"id\"\n\tFROM álbum\\\x01"
    params := [⟨2147483647, { name := "ids", isSlice := true }⟩]
    columns := [{ name := "álbum", embedTable := some ⟨"álbum"⟩ }] }]

/-- A request that no message stands for: its parameter has the largest number, and a column embeds
the table without a name. -/
def unnamedEmbedRequest : Request where
  queries := [{
    name := ""
    command := .exec
    text := ""
    params := [⟨4294967295, { name := "" }⟩]
    columns := [{ name := "", table := some ⟨"t"⟩, embedTable := some ⟨""⟩ }] }]

theorem json_faithful_album :
    loadRequest .json (Utf8.encode (Request.record.writeText unnamedEmbedRequest)) =
        .done unnamedEmbedRequest ∧
      (loadRequest .protobuf (Plugin.Request.messageType.encode albumMessage)).result =
        .ok albumRequest ∧
      (generateFrom .json (Utf8.encode (Request.record.writeText albumRequest))).result =
        (generateFrom .protobuf (Plugin.Request.messageType.encode albumMessage)).result := by
  obtain ⟨hload, hgenerate⟩ := json_faithful
  have hdecode : Plugin.Request.messageType.decode
      (Plugin.Request.messageType.encode albumMessage) = .ok albumMessage :=
    Plugin.Request.roundTrips.decode_encode (by decide) (by decide +kernel)
  have hrequest : (loadRequest .protobuf (Plugin.Request.messageType.encode albumMessage)).result =
      .ok albumRequest := by
    rw [loadRequest, Plugin.decodeRequest, hdecode]
    decide +kernel
  exact ⟨hload _, hrequest, hgenerate _ _ hrequest⟩

example : Column.record.writeText { name := "\"ñ\x1f", embedTable := some ⟨""⟩ } =
    "\x7b\"name\":\"\\\"ñ\\u001f\",\"db_type\":\"\",\"not_null\":false,\"is_slice\":false," ++
      "\"embed_table\":\x7b\"name\":\"\"\x7d\x7d" := by
  decide +kernel

end TypedSql
