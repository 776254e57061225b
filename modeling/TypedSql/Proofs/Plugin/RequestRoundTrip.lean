import TypedSql.Plugin.Exchange
import TypedSql.Proofs.Protobuf.RoundTrip

/-!
A request that is written is read back. Every message type of the request restores its fields in the
order of their tags; what is left to check of a field is that the record around it still has the
field's default when its turn comes. The types lie at most five deep inside each other.
-/

namespace TypedSql.Plugin

open Protobuf (Field MessageType)
open Protobuf.Field (RestoreAll)

theorem Override.roundTrips : Override.messageType.RoundTrips 0 :=
  MessageType.roundTrips_of_restoreAll (by decide) fun override =>
    .cons (Field.restores_text rfl) <|
    .cons (Field.restores_text rfl) <|
    .cons (Field.restores_bool rfl) <|
    .cons (Field.restores_text rfl) <|
    .nil override

theorem Wasm.roundTrips : Wasm.messageType.RoundTrips 0 :=
  MessageType.roundTrips_of_restoreAll (by decide) fun wasm =>
    .cons (Field.restores_text rfl) <|
    .cons (Field.restores_text rfl) <|
    .nil wasm

theorem Codegen.roundTrips : Codegen.messageType.RoundTrips 1 :=
  MessageType.roundTrips_of_restoreAll (by decide) fun codegen =>
    .cons (Field.restores_text rfl) <|
    .cons (Field.restores_text rfl) <|
    .cons (Field.restores_bytes rfl) <|
    .cons (Field.restores_message Wasm.roundTrips (by omega) rfl rfl) <|
    .nil codegen

theorem Settings.roundTrips : Settings.messageType.RoundTrips 2 :=
  MessageType.roundTrips_of_restoreAll (by decide) fun settings =>
    .cons (Field.restores_text rfl) <|
    .cons (Field.restores_text rfl) <|
    .cons (Field.restores_messages Override.roundTrips (by omega) (fun _ => rfl)
      (fun _ _ => rfl) rfl) <|
    .cons (Field.restores_message Codegen.roundTrips (by omega) rfl rfl) <|
    .nil settings

theorem Identifier.roundTrips : Identifier.messageType.RoundTrips 0 :=
  MessageType.roundTrips_of_restoreAll (by decide) fun identifier =>
    .cons (Field.restores_text rfl) <|
    .cons (Field.restores_text rfl) <|
    .cons (Field.restores_text rfl) <|
    .nil identifier

theorem Column.roundTrips : Column.messageType.RoundTrips 1 :=
  MessageType.roundTrips_of_restoreAll (by decide) fun column =>
    .cons (Field.restores_text rfl) <|
    .cons (Field.restores_bool rfl) <|
    .cons (Field.restores_bool rfl) <|
    .cons (Field.restores_message Identifier.roundTrips (by omega) rfl rfl) <|
    .cons (Field.restores_message Identifier.roundTrips (by omega) rfl rfl) <|
    .cons (Field.restores_bool rfl) <|
    .cons (Field.restores_message Identifier.roundTrips (by omega) rfl rfl) <|
    .nil column

theorem Table.roundTrips : Table.messageType.RoundTrips 2 :=
  MessageType.roundTrips_of_restoreAll (by decide) fun table =>
    .cons (Field.restores_message Identifier.roundTrips (by omega) rfl rfl) <|
    .cons (Field.restores_messages Column.roundTrips (by omega) (fun _ => rfl)
      (fun _ _ => rfl) rfl) <|
    .nil table

theorem Schema.roundTrips : Schema.messageType.RoundTrips 3 :=
  MessageType.roundTrips_of_restoreAll (by decide) fun schema =>
    .cons (Field.restores_text rfl) <|
    .cons (Field.restores_messages Table.roundTrips (by omega) (fun _ => rfl)
      (fun _ _ => rfl) rfl) <|
    .nil schema

theorem Catalog.roundTrips : Catalog.messageType.RoundTrips 4 :=
  MessageType.roundTrips_of_restoreAll (by decide) fun catalog =>
    .cons (Field.restores_text rfl) <|
    .cons (Field.restores_messages Schema.roundTrips (by omega) (fun _ => rfl)
      (fun _ _ => rfl) rfl) <|
    .nil catalog

theorem Parameter.roundTrips : Parameter.messageType.RoundTrips 2 :=
  MessageType.roundTrips_of_restoreAll (by decide) fun parameter =>
    .cons (Field.restores_int32 rfl) <|
    .cons (Field.restores_message Column.roundTrips (by omega) rfl rfl) <|
    .nil parameter

theorem Query.roundTrips : Query.messageType.RoundTrips 3 :=
  MessageType.roundTrips_of_restoreAll (by decide) fun query =>
    .cons (Field.restores_text rfl) <|
    .cons (Field.restores_text rfl) <|
    .cons (Field.restores_text rfl) <|
    .cons (Field.restores_messages Column.roundTrips (by omega) (fun _ => rfl)
      (fun _ _ => rfl) rfl) <|
    .cons (Field.restores_messages Parameter.roundTrips (by omega) (fun _ => rfl)
      (fun _ _ => rfl) rfl) <|
    .nil query

theorem Request.roundTrips : Request.messageType.RoundTrips 5 :=
  MessageType.roundTrips_of_restoreAll (by decide) fun request =>
    .cons (Field.restores_message Settings.roundTrips (by omega) rfl rfl) <|
    .cons (Field.restores_message Catalog.roundTrips (by omega) rfl rfl) <|
    .cons (Field.restores_messages Query.roundTrips (by omega) (fun _ => rfl)
      (fun _ _ => rfl) rfl) <|
    .cons (Field.restores_text rfl) <|
    .cons (Field.restores_bytes rfl) <|
    .nil request

/-- Every request is read back as it was written, whatever it holds: absent submessages stay absent,
and empty ones that are there stay there. So the request that its bytes stand for is the one that it
stands for itself. The bound is no restriction on bytes that exist: their number has sixty-four
bits. -/
theorem decode_encode_request (request : Request)
    (hlength : (Request.messageType.encode request).length < UInt64.size) :
    Request.messageType.decode (Request.messageType.encode request) = .ok request ∧
      decodeRequest (Request.messageType.encode request) = request.toRequest := by
  have hdecode : Request.messageType.decode (Request.messageType.encode request) = .ok request :=
    Request.roundTrips.decode_encode (by decide) hlength
  refine ⟨hdecode, ?_⟩
  rw [decodeRequest, hdecode]

def playlistRequest : Request where
  settings := some { codegen := some { wasm := some {} } }
  catalog := some { schemas := [{ tables := [{ rel := some {}, columns := [{ name := "título" }] },
    { rel := none }] }] }
  queries := [{ name := "Play", cmd := ":one", params := [{ number := -7 },
    { number := 2147483647, column := some { type := some { name := "INTEGER" } } }] }, {}]
  pluginOptions := [0, 255]

theorem decode_encode_playlistRequest :
    Request.messageType.decode (Request.messageType.encode playlistRequest) =
        .ok playlistRequest ∧
      decodeRequest (Request.messageType.encode playlistRequest) = playlistRequest.toRequest :=
  decode_encode_request playlistRequest (by decide +kernel)

end TypedSql.Plugin
