import JsonRpc.Proofs.Addressing
import JsonRpc.Proofs.Identification
import JsonRpc.Proofs.RoundTrip

set_option autoImplicit false

namespace JsonRpc

namespace RequestId

theorem encode_to_json (id : RequestId) : id.encode = id.toJson := by
  cases id with
  | number value =>
      cases value with
      | int value fits => rfl
      | float value finite => simp [encode, toJson, Json.ofFloat, Number.ofFloat?, finite]
  | _ => rfl

theorem of_json_iff (raw : Json) (id : RequestId) : ofJson? raw = some id ↔ raw = id.toJson := by
  constructor
  · intro read
    exact (to_json_of_json raw id read).symm
  · rintro rfl
    exact of_json_to_json id

theorem read_iff_decoded (raw : Json) (id : RequestId) : ofJson? raw = some id ↔ decoder.decode raw = .ok id := by
  rw [of_json_iff, decoder_iff]

theorem unread_iff_refused (raw : Json) :
    ofJson? raw = none ↔ decoder.decode raw = .error (.noAlternative "RequestId") := by
  constructor
  · intro unread
    refine Decoder.choose_refused _ _ _ fun id decoded => ?_
    have read := (read_iff_decoded raw id).mpr decoded
    rw [unread] at read
    contradiction
  · intro refused
    cases read : ofJson? raw with
    | none => rfl
    | some id =>
        have decoded := (read_iff_decoded raw id).mp read
        rw [refused] at decoded
        contradiction

end RequestId

theorem Message.received_id (message : Message) : message.received.id = message.id := by
  cases message <;> rfl

theorem echoed (id : RequestId) (outcome : Except RpcError Json) :
    let message := Message.ofOutcome id outcome
    message.toJson.get? "id" = some id.encode ∧
      ∃ read, Message.decoder.decode message.toJson = .ok read ∧ read.id = id := by
  intro message
  have own : message.id = id := Message.of_outcome_id id outcome
  refine ⟨?_, message.received, message.read_written, ?_⟩
  · rw [message.encoded_id, own, id.encode_to_json]
  · rw [message.received_id, own]

/-- Reading an identifier by hand and decoding it accept the same documents with the same result, and so do the two
ways to write it. What a request gives as its identifier is what its answer carries and what is read from it. -/
theorem id_conversions_agree :
    (∀ raw id, RequestId.ofJson? raw = some id ↔ RequestId.decoder.decode raw = .ok id) ∧
    (∀ raw, RequestId.ofJson? raw = none ↔ RequestId.decoder.decode raw = .error (.noAlternative "RequestId")) ∧
    (∀ id : RequestId, id.encode = id.toJson ∧ RequestId.ofJson? id.toJson = some id) ∧
    (∀ raw id, RequestId.ofJson? raw = some id → id.toJson = raw) ∧
    (∀ document request, Request.ofJson document = .ok request →
      document.get? "id" = request.id.map RequestId.encode) ∧
    ∀ (members : Members) (request : Request), Request.ofJson (.obj members) = .ok request → ∀ id : RequestId,
      Request.ofJson (.obj (members.insert "id" id.encode)) = .ok { request with id := some id } ∧
      ∀ outcome,
        let message := Message.ofOutcome id outcome
        message.toJson.get? "id" = some id.encode ∧
          ∃ read, Message.decoder.decode message.toJson = .ok read ∧ read.id = id := by
  refine ⟨RequestId.read_iff_decoded, RequestId.unread_iff_refused,
    fun id => ⟨id.encode_to_json, id.of_json_to_json⟩, RequestId.to_json_of_json, fun document request accepted => ?_,
    fun members request accepted id => ⟨?_, echoed id⟩⟩
  · rw [Request.accepted_id document request accepted]
    exact Option.map_congr fun id _ => id.encode_to_json.symm
  · rw [id.encode_to_json]
    exact Request.of_json_identified members request accepted id

theorem greatest_id_comes_back :
    let id : RequestId := .number (.int 18446744073709551615 (by decide))
    let members : Members := [("jsonrpc", .str "2.0"), ("method", .str "m")]
    let message := Message.ofOutcome id (.error (.invalidParams "no"))
    Request.ofJson (.obj (members.insert "id" id.encode)) =
        .ok { method := "m", params := [], id := some id, extra := [] } ∧
      message.toJson.get? "id" = some (.num (.int 18446744073709551615 (by decide))) ∧
      (∃ read, Message.decoder.decode message.toJson = .ok read ∧ read.id = id) ∧
      RequestId.decoder.decode (.bool true) = .error (.noAlternative "RequestId") := by
  intro id members message
  have agree := id_conversions_agree
  have accepted : Request.ofJson (.obj members) = .ok { method := "m", params := [], id := none, extra := [] } := rfl
  obtain ⟨valid, echo⟩ := agree.2.2.2.2.2 members _ accepted id
  exact ⟨valid, (echo _).1, (echo _).2, (agree.2.1 (.bool true)).mp rfl⟩

end JsonRpc
