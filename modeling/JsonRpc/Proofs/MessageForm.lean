import JsonRpc.Message
import JsonRpc.Proofs.Decoding
import JsonRpc.Proofs.Records

set_option autoImplicit false

namespace JsonRpc

inductive RpcError.Form : Json → RpcError → Prop
  | object (members : Members) (code : Int64) (message : String) (data : Option Json)
      (hasCode : members.Only "code" (.ofInt64 code)) (hasMessage : members.Only "message" (.str message))
      (mayHaveData : (members.Lacks "data" ∧ data = none) ∨ ∃ raw, members.Only "data" raw ∧ data = raw.unlessNull) :
      Form (.obj members) { code, message, data }
  | pair (code : Int64) (message : String) : Form (.arr [.ofInt64 code, .str message]) { code, message }
  | triple (code : Int64) (message : String) (data : Json) :
      Form (.arr [.ofInt64 code, .str message, data]) { code, message, data := data.unlessNull }

inductive Response.Form : Json → Response → Prop
  | object (members : Members) (result : Json) (id : RequestId) (hasVersion : members.Only "jsonrpc" (.str "2.0"))
      (hasResult : members.Only "result" result) (hasId : members.Only "id" id.toJson)
      (noOther : ∀ member ∈ members, member.1 ∈ ["jsonrpc", "result", "id"]) : Form (.obj members) { result, id }
  | list (result : Json) (id : RequestId) : Form (.arr [.str "2.0", result, id.toJson]) { result, id }

inductive ErrorResponse.Form : Json → ErrorResponse → Prop
  | object (members : Members) (raw : Json) (error : RpcError) (id : RequestId)
      (hasVersion : members.Only "jsonrpc" (.str "2.0")) (hasError : members.Only "error" raw)
      (valid : RpcError.Form raw error) (hasId : members.Only "id" id.toJson) : Form (.obj members) { error, id }

theorem RequestId.decoder_iff (document : Json) (id : RequestId) :
    decoder.decode document = .ok id ↔ document = id.toJson := by
  simp only [decoder, Decoder.choose_cons, Decoder.choose_nil, ne_eq, Decoder.map_iff, Decoder.string_iff,
    Decoder.number_iff, Decoder.unit_iff]
  cases document <;> cases id <;> simp [toJson]

theorem Version.decoder_iff (document : Json) (version : Version) :
    decoder.decode document = .ok version ↔ document = .str "2.0" := by
  cases document with
  | str text =>
      have read : decoder.decode (.str text) = ofText text := rfl
      rw [read]
      cases version
      by_cases known : text = "2.0" <;> simp [ofText, known]
  | _ => simp [Decoder.decode, decoder, Decoder.string, Decoder.ofScalar, Source.view, Decoder.mismatch, bind,
      Except.bind]

namespace RpcError

theorem read_iff (members : Members) (code : Int64) (message : String) (data : Option Json) :
    Values.Read members fields (code, message, data, ()) ↔
      members.Only "code" (.ofInt64 code) ∧ members.Only "message" (.str message) ∧
        ((members.Lacks "data" ∧ data = none) ∨ ∃ raw, members.Only "data" raw ∧ data = raw.unlessNull) := by
  simp [fields, Values.Read, Field.Reads, Decoder.int64_iff, Decoder.string_iff, Decoder.optional_any_iff,
    @eq_comm _ none data]

theorem listed_iff (items : List Json) (code : Int64) (message : String) (data : Option Json) :
    Values.Listed fields items (code, message, data, ()) ↔
      ∃ left, items = .ofInt64 code :: .str message :: left ∧
        ((left = [] ∧ data = none) ∨ ∃ raw, left = [raw] ∧ data = raw.unlessNull) := by
  rcases items with _ | ⟨first, _ | ⟨second, _ | ⟨third, rest⟩⟩⟩
  · simp [fields, Values.Listed]
  · simp [fields, Values.Listed]
  · simp [fields, Values.Listed, Decoder.int64_iff, Decoder.string_iff, and_assoc, @eq_comm _ none data]
  · simp [fields, Values.Listed, Decoder.int64_iff, Decoder.string_iff, Decoder.optional_any_iff, and_assoc,
      @and_comm (rest = [])]

theorem decoder_iff (document : Json) (error : RpcError) :
    decoder.decode document = .ok error ↔ Form document error := by
  have distinct : (fields.map Field.name).Nodup := by decide
  rw [decoder, Decoder.map_iff]
  constructor
  · rintro ⟨⟨code, message, data, ⟨⟩⟩, read, rfl⟩
    rcases (Decoder.record_iff _ fields distinct false document _).mp read with
      ⟨items, rfl, listed⟩ | ⟨members, rfl, _, named⟩
    · obtain ⟨_, rfl, ⟨rfl, rfl⟩ | ⟨raw, rfl, rfl⟩⟩ := (listed_iff items code message data).mp listed
      · exact .pair code message
      · exact .triple code message raw
    · obtain ⟨hasCode, hasMessage, mayHaveData⟩ := (read_iff members code message data).mp named
      exact .object members code message data hasCode hasMessage mayHaveData
  · rintro (⟨members, code, message, data, hasCode, hasMessage, mayHaveData⟩ | ⟨code, message⟩ |
      ⟨code, message, data⟩)
    · have named := (read_iff members code message data).mpr ⟨hasCode, hasMessage, mayHaveData⟩
      exact ⟨_, (Decoder.record_iff _ fields distinct false _ _).mpr (.inr ⟨members, rfl, nofun, named⟩), rfl⟩
    · have listed := (listed_iff _ code message none).mpr ⟨[], rfl, .inl ⟨rfl, rfl⟩⟩
      exact ⟨_, (Decoder.record_iff _ fields distinct false _ _).mpr (.inl ⟨_, rfl, listed⟩), rfl⟩
    · have listed := (listed_iff _ code message _).mpr ⟨[data], rfl, .inr ⟨data, rfl, rfl⟩⟩
      exact ⟨_, (Decoder.record_iff _ fields distinct false _ _).mpr (.inl ⟨_, rfl, listed⟩), rfl⟩

end RpcError

theorem carried_read_iff {α : Type} (name : String) (payload : Decoder α) (members : Members) (version : Version)
    (value : α) (id : RequestId) :
    Values.Read members
        [.required "jsonrpc" Version.decoder, .required name payload, .required "id" RequestId.decoder]
        (version, value, id, ()) ↔
      members.Only "jsonrpc" (.str "2.0") ∧ (∃ raw, members.Only name raw ∧ payload.decode raw = .ok value) ∧
        members.Only "id" id.toJson := by
  simp [Values.Read, Field.Reads, Version.decoder_iff, RequestId.decoder_iff]

theorem carried_listed_iff {α : Type} (name : String) (payload : Decoder α) (items : List Json) (version : Version)
    (value : α) (id : RequestId) :
    Values.Listed [.required "jsonrpc" Version.decoder, .required name payload, .required "id" RequestId.decoder]
        items (version, value, id, ()) ↔
      ∃ raw, items = [.str "2.0", raw, id.toJson] ∧ payload.decode raw = .ok value := by
  rcases items with _ | ⟨first, _ | ⟨second, _ | ⟨third, rest⟩⟩⟩
  · simp [Values.Listed]
  · simp [Values.Listed]
  · simp [Values.Listed]
  · simp only [Values.Listed, Version.decoder_iff, RequestId.decoder_iff]
    constructor
    · rintro ⟨rfl, taken, rfl, rfl⟩
      exact ⟨second, rfl, taken⟩
    · rintro ⟨raw, ⟨⟩, taken⟩
      exact ⟨rfl, taken, rfl, rfl⟩

namespace Response

theorem decoder_iff (document : Json) (sent : Response) :
    decoder.decode document = .ok sent ↔ Form document sent := by
  have distinct : (fields.map Field.name).Nodup := by decide
  rw [decoder, Decoder.map_iff]
  constructor
  · rintro ⟨⟨version, result, id, ⟨⟩⟩, read, rfl⟩
    rcases (Decoder.record_iff _ fields distinct true document _).mp read with
      ⟨items, rfl, listed⟩ | ⟨members, rfl, closed, named⟩
    · obtain ⟨raw, rfl, taken⟩ := (carried_listed_iff "result" Decoder.any items version result id).mp listed
      rw [(Decoder.any_iff raw result).mp taken]
      exact .list result id
    · obtain ⟨hasVersion, ⟨raw, hasResult, taken⟩, hasId⟩ :=
        (carried_read_iff "result" Decoder.any members version result id).mp named
      rw [(Decoder.any_iff raw result).mp taken] at hasResult
      exact .object members result id hasVersion hasResult hasId (closed rfl)
  · rintro (⟨members, result, id, hasVersion, hasResult, hasId, noOther⟩ | ⟨result, id⟩)
    · have named := (carried_read_iff "result" Decoder.any members .v2 result id).mpr
        ⟨hasVersion, ⟨result, hasResult, rfl⟩, hasId⟩
      exact ⟨_, (Decoder.record_iff _ fields distinct true _ _).mpr (.inr ⟨members, rfl, fun _ => noOther, named⟩), rfl⟩
    · have listed := (carried_listed_iff "result" Decoder.any _ .v2 result id).mpr ⟨result, rfl, rfl⟩
      exact ⟨_, (Decoder.record_iff _ fields distinct true _ _).mpr (.inl ⟨_, rfl, listed⟩), rfl⟩

end Response

namespace ErrorResponse

theorem decoder_iff (document : Json) (sent : ErrorResponse) :
    decoder.decode document = .ok sent ↔
      Form document sent ∨
        ∃ raw, document = .arr [.str "2.0", raw, sent.id.toJson] ∧ RpcError.Form raw sent.error := by
  have distinct : (fields.map Field.name).Nodup := by decide
  rw [decoder, Decoder.map_iff]
  constructor
  · rintro ⟨⟨version, error, id, ⟨⟩⟩, read, rfl⟩
    rcases (Decoder.record_iff _ fields distinct false document _).mp read with
      ⟨items, rfl, listed⟩ | ⟨members, rfl, _, named⟩
    · obtain ⟨raw, rfl, taken⟩ := (carried_listed_iff "error" RpcError.decoder items version error id).mp listed
      exact .inr ⟨raw, rfl, (RpcError.decoder_iff raw error).mp taken⟩
    · obtain ⟨hasVersion, ⟨raw, hasError, taken⟩, hasId⟩ :=
        (carried_read_iff "error" RpcError.decoder members version error id).mp named
      exact .inl (.object members raw error id hasVersion hasError ((RpcError.decoder_iff raw error).mp taken) hasId)
  · rintro (⟨members, raw, error, id, hasVersion, hasError, valid, hasId⟩ | ⟨raw, rfl, valid⟩)
    · have named := (carried_read_iff "error" RpcError.decoder members .v2 error id).mpr
        ⟨hasVersion, ⟨raw, hasError, (RpcError.decoder_iff raw error).mpr valid⟩, hasId⟩
      exact ⟨_, (Decoder.record_iff _ fields distinct false _ _).mpr (.inr ⟨members, rfl, nofun, named⟩), rfl⟩
    · have listed := (carried_listed_iff "error" RpcError.decoder _ .v2 sent.error sent.id).mpr
        ⟨raw, rfl, (RpcError.decoder_iff raw sent.error).mpr valid⟩
      exact ⟨_, (Decoder.record_iff _ fields distinct false _ _).mpr (.inl ⟨_, rfl, listed⟩), rfl⟩

end ErrorResponse

namespace Message

-- A member called `error` is none of a response's own.
theorem error_no_response (document : Json) (sent : ErrorResponse) (form : ErrorResponse.Form document sent)
    (response : Response) : ¬ Response.Form document response := by
  obtain ⟨members, raw, error, id, _, hasError, _, _⟩ := form
  rintro ⟨_, _, _, _, _, _, noOther⟩
  have named : "error" ∈ members.map Prod.fst := List.count_pos_iff.mp (by rw [hasError.2]; decide)
  obtain ⟨member, present, same⟩ := List.mem_map.mp named
  have own := noOther member present
  rw [same] at own
  exact absurd own (by decide)

/-- A message is read as a response or as an error exactly from the forms of each, and from nothing else. -/
theorem read_by_form (document : Json) :
    (∀ sent, decoder.decode document = .ok (.result sent) ↔ Response.Form document sent) ∧
      (∀ sent, decoder.decode document = .ok (.error sent) ↔ ErrorResponse.Form document sent) ∧
      ((∀ sent, ¬ Response.Form document sent) → (∀ sent, ¬ ErrorResponse.Form document sent) →
        decoder.decode document = .error (.noAlternative "JsonRpcMessage")) := by
  have read (message : Message) : decoder.decode document = .ok message ↔
      (∃ sent, Response.Form document sent ∧ .result sent = message) ∨
        (∀ sent, ¬ Response.Form document sent) ∧
          ∃ sent, ErrorResponse.decoder.decode document = .ok sent ∧ .error sent = message := by
    simp only [decoder, Decoder.choose_cons, Decoder.choose_nil, ne_eq, Decoder.map_iff, Response.decoder_iff]
    simp
  have response (sent : Response) : decoder.decode document = .ok (.result sent) ↔ Response.Form document sent := by
    simp [read]
  have error (sent : ErrorResponse) :
      decoder.decode document = .ok (.error sent) ↔ ErrorResponse.Form document sent := by
    rw [read]
    constructor
    · rintro (⟨_, _, ⟨⟩⟩ | ⟨noResponse, _, taken, ⟨⟩⟩)
      rcases (ErrorResponse.decoder_iff document sent).mp taken with form | ⟨raw, rfl, _⟩
      · exact form
      · exact absurd (.list raw sent.id) (noResponse _)
    · intro form
      have read := (ErrorResponse.decoder_iff document sent).mpr (.inl form)
      exact .inr ⟨error_no_response document sent form, sent, read, rfl⟩
  refine ⟨response, error, fun noResponse noError => Decoder.choose_refused _ _ _ fun message taken => ?_⟩
  cases message with
  | result sent => exact noResponse sent ((response sent).mp taken)
  | error sent => exact noError sent ((error sent).mp taken)

theorem error_beside_result_read :
    let error : Json := .obj [("code", .ofInt64 (-32601)), ("message", .str "gone"), ("note", .bool true)]
    let document : Json := .obj [("error", error), ("id", .str "a"), ("jsonrpc", .str "2.0"), ("result", .null)]
    let listed : Json := .arr [.str "2.0", error, .null]
    decoder.decode document = .ok (.failure (.string "a") { code := -32601, message := "gone" }) ∧
      decoder.decode listed = .ok (.success .null error) ∧
      decoder.decode (.arr [.str "2.0", error]) = .error (.noAlternative "JsonRpcMessage") := by
  intro error document listed
  have valid : RpcError.Form error { code := -32601, message := "gone" } :=
    .object _ (-32601) "gone" none ⟨rfl, rfl⟩ ⟨rfl, rfl⟩ (.inl ⟨by simp [Members.Lacks], rfl⟩)
  refine ⟨?_, ?_, ?_⟩
  · exact ((read_by_form document).2.1 _).mpr (.object _ error _ (.string "a") ⟨rfl, rfl⟩ ⟨rfl, rfl⟩ valid ⟨rfl, rfl⟩)
  · exact ((read_by_form listed).1 _).mpr (.list error .null)
  · exact (read_by_form (.arr [.str "2.0", error])).2.2 (by rintro _ ⟨⟩) (by rintro _ ⟨⟩)

end Message

end JsonRpc
