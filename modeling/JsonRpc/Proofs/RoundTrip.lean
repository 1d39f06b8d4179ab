import JsonRpc.Proofs.Candidate
import JsonRpc.Proofs.MessageForm

set_option autoImplicit false

namespace JsonRpc

theorem Json.unless_null_again (data shown : Json) (present : data.unlessNull = some shown) :
    shown.unlessNull = some shown := by
  cases data with
  | null => contradiction
  | _ =>
      cases present
      rfl

namespace RpcError

def received (error : RpcError) : RpcError := { error with data := error.data.bind Json.unlessNull }

theorem shown_data (error : RpcError) : error.shownData = error.data.bind Json.unlessNull := by
  cases present : error.data with
  | none => simp [shownData, present]
  | some data => cases data <;> simp [shownData, present, Json.isNull, Json.unlessNull]

theorem to_json_bare (error : RpcError) (hidden : error.shownData = none) :
    error.toJson = .obj [("code", .ofInt64 error.code), ("message", .str error.message)] := by
  simp only [toJson, members, hidden]
  rfl

theorem to_json_with_data (error : RpcError) (data : Json) (shown : error.shownData = some data) :
    error.toJson = .obj [("code", .ofInt64 error.code), ("data", data), ("message", .str error.message)] := by
  simp only [toJson, members, shown]
  rfl

theorem written_form (error : RpcError) : Form error.toJson error.received := by
  have shown := error.shown_data
  cases present : error.data.bind Json.unlessNull with
  | none =>
      rw [error.to_json_bare (shown.trans present), received, present]
      exact .object _ error.code error.message none ⟨rfl, rfl⟩ ⟨rfl, rfl⟩ (.inl ⟨by simp [Members.Lacks], rfl⟩)
  | some data =>
      obtain ⟨raw, _, visible⟩ := Option.bind_eq_some_iff.mp present
      have same : some data = data.unlessNull := (raw.unless_null_again data visible).symm
      rw [error.to_json_with_data data (shown.trans present), received, present]
      exact .object _ error.code error.message (some data) ⟨rfl, rfl⟩ ⟨rfl, rfl⟩ (.inr ⟨data, ⟨rfl, rfl⟩, same⟩)

end RpcError

theorem Response.written_form (sent : Response) : Form (Json.object sent.members) sent := by
  have written : Json.object sent.members =
      .obj [("id", sent.id.toJson), ("jsonrpc", .str "2.0"), ("result", sent.result)] := rfl
  rw [written]
  exact .object _ sent.result sent.id ⟨rfl, rfl⟩ ⟨rfl, rfl⟩ ⟨rfl, rfl⟩ (by simp)

def ErrorResponse.received (sent : ErrorResponse) : ErrorResponse := { sent with error := sent.error.received }

theorem ErrorResponse.written_form (sent : ErrorResponse) : Form sent.toJson sent.received := by
  have written : sent.toJson =
      .obj [("error", sent.error.toJson), ("id", sent.id.toJson), ("jsonrpc", .str "2.0")] := rfl
  rw [written]
  exact .object _ sent.error.toJson sent.error.received sent.id ⟨rfl, rfl⟩ ⟨rfl, rfl⟩ sent.error.written_form ⟨rfl, rfl⟩

namespace Message

-- The message as it arrives. Data that is `null` is lost on the way.
def received : Message → Message
  | .result sent => .result sent
  | .error sent => .error sent.received

theorem read_written (message : Message) : decoder.decode message.toJson = .ok message.received := by
  cases message with
  | result sent =>
      have read := (Response.decoder_iff _ sent).mpr sent.written_form
      rw [decoder, Decoder.choose_cons, Decoder.map_iff]
      exact .inl ⟨sent, read, rfl⟩
  | error sent =>
      have read := (ErrorResponse.decoder_iff _ sent.received).mpr (.inl sent.written_form)
      rw [decoder, Decoder.choose_cons, Decoder.choose_cons, Decoder.map_iff, Decoder.map_iff]
      -- Responses are tried first, and none has a member called `error`.
      refine .inr ⟨fun other taken => ?_, .inl ⟨sent.received, read, rfl⟩⟩
      obtain ⟨response, asResponse, _⟩ := (Decoder.map_iff _ _ _ _).mp taken
      exact error_no_response _ sent.received sent.written_form response
        ((Response.decoder_iff _ response).mp asResponse)

end Message

def Json.sentMessages : Json → List Json
  | .arr items => items
  | document => [document]

theorem Answer.read_written (answer : Answer) :
    answer.toJson?.toList.flatMap (fun document => document.sentMessages.map Message.decoder.decode) =
      answer.messages.map fun message => .ok message.received := by
  cases answer with
  | single message =>
      have object : message.toJson.sentMessages = [message.toJson] := by cases message <;> rfl
      simp [toJson?, object, messages, message.read_written]
  | batch sent => simp [toJson?, Json.sentMessages, messages, Message.read_written]
  | silent => rfl

/-- Decoding undoes encoding for errors, responses and messages, and so a caller reads from a response document
the messages that the dispatcher made. -/
theorem written_is_read_back :
    (∀ error : RpcError, RpcError.decoder.decode error.toJson = .ok error.received) ∧
    (∀ sent : Response, Response.decoder.decode (Json.object sent.members) = .ok sent) ∧
    (∀ sent : ErrorResponse, ErrorResponse.decoder.decode sent.toJson = .ok sent.received) ∧
    (∀ message : Message, Message.decoder.decode message.toJson = .ok message.received) ∧
    ∀ {C M H : Type} (depth : Nat) (input : Input) (data : C) (dispatcher : Dispatcher C M H),
      let answer := (Dispatcher.dispatch depth input data dispatcher).value
      answer.toJson?.toList.flatMap (fun document => document.sentMessages.map Message.decoder.decode) =
        answer.messages.map fun message => .ok message.received := by
  refine ⟨fun error => ?_, fun sent => ?_, fun sent => ?_, Message.read_written, fun depth input data dispatcher => ?_⟩
  · exact (RpcError.decoder_iff _ _).mpr error.written_form
  · exact (Response.decoder_iff _ _).mpr sent.written_form
  · exact (ErrorResponse.decoder_iff _ _).mpr (.inl sent.written_form)
  · exact Answer.read_written _

end JsonRpc
