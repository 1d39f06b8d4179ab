import JsonRpc.Proofs.MemberOrder
import JsonRpc.Proofs.RoundTrip
import JsonRpc.Proofs.WrittenForm

set_option autoImplicit false

namespace JsonRpc

def Members.Exactly (members : Members) (names : List String) : Prop := (members.map Prod.fst).Perm names

inductive RpcError.Object (error : RpcError) : Json → Prop
  | bare (members : Members) (named : members.Exactly ["code", "message"])
      (code : members.lookup "code" = some (.ofInt64 error.code))
      (message : members.lookup "message" = some (.str error.message))
      (noData : error.data = none ∨ error.data = some .null) : Object error (.obj members)
  | withData (members : Members) (data : Json) (named : members.Exactly ["code", "message", "data"])
      (code : members.lookup "code" = some (.ofInt64 error.code))
      (message : members.lookup "message" = some (.str error.message))
      (shown : members.lookup "data" = some data) (isSet : error.data = some data) (noNull : data ≠ .null) :
      Object error (.obj members)

inductive Message.Object : Message → Json → Prop
  | result (sent : Response) (members : Members) (named : members.Exactly ["jsonrpc", "result", "id"])
      (version : members.lookup "jsonrpc" = some (.str "2.0")) (id : members.lookup "id" = some sent.id.toJson)
      (result : members.lookup "result" = some sent.result) : Object (.result sent) (.obj members)
  | error (sent : ErrorResponse) (members : Members) (raw : Json) (named : members.Exactly ["jsonrpc", "error", "id"])
      (version : members.lookup "jsonrpc" = some (.str "2.0")) (id : members.lookup "id" = some sent.id.toJson)
      (error : members.lookup "error" = some raw) (valid : sent.error.Object raw) : Object (.error sent) (.obj members)

theorem RpcError.shown_data_iff (error : RpcError) (data : Json) :
    error.shownData = some data ↔ error.data = some data ∧ data ≠ .null := by
  have noNull : data.isNull = false ↔ data ≠ .null := by cases data <;> simp [Json.isNull]
  simp [shownData, Option.filter_eq_some_iff, noNull]

theorem RpcError.shown_data_none (error : RpcError) (hidden : error.shownData = none) :
    error.data = none ∨ error.data = some .null := by
  cases present : error.data with
  | none => exact .inl rfl
  | some data =>
      refine .inr (congrArg some (Classical.byContradiction fun noNull => ?_))
      exact Option.some_ne_none data (((error.shown_data_iff data).mpr ⟨present, noNull⟩).symm.trans hidden)

theorem RpcError.written_object (error : RpcError) : error.Object error.toJson := by
  cases shown : error.shownData with
  | none =>
      have named : ["code", "message"].Perm ["code", "message"] := .refl _
      rw [error.to_json_bare shown]
      exact .bare _ named rfl rfl (error.shown_data_none shown)
  | some data =>
      have named : ["code", "data", "message"].Perm ["code", "message", "data"] := by decide
      obtain ⟨isSet, noNull⟩ := (error.shown_data_iff data).mp shown
      rw [error.to_json_with_data data shown]
      exact .withData _ data named rfl rfl rfl isSet noNull

theorem Message.written_object (message : Message) : message.Object message.toJson := by
  cases message with
  | result sent =>
      have written : (Message.result sent).toJson =
          .obj [("id", sent.id.toJson), ("jsonrpc", .str "2.0"), ("result", sent.result)] := rfl
      have named : ["id", "jsonrpc", "result"].Perm ["jsonrpc", "result", "id"] := by decide
      rw [written]
      exact .result sent _ named rfl rfl rfl
  | error sent =>
      have written : (Message.error sent).toJson =
          .obj [("error", sent.error.toJson), ("id", sent.id.toJson), ("jsonrpc", .str "2.0")] := rfl
      have named : ["error", "id", "jsonrpc"].Perm ["jsonrpc", "error", "id"] := by decide
      rw [written]
      exact .error sent _ _ named rfl rfl rfl sent.error.written_object

theorem Json.object_rendered (members : Members) : (Json.obj members).render ≠ "" := by
  simp [render]

theorem Json.list_rendered (items : List Json) : (Json.arr items).render ≠ "" := by
  simp [render]

theorem Members.Exactly.of_lookup (members : Members) (names : List String) (named : members.Exactly names)
    (name : String) (value : Json) (found : members.lookup name = some value) : name ∈ names :=
  named.subset (List.mem_map_of_mem (mem_of_lookup members name value found))

theorem Message.error_iff (message : Message) (members : Members) (object : message.Object (.obj members)) :
    message.isError = true ↔ ∃ raised, members.lookup "error" = some raised := by
  cases object with
  | error _ _ raw _ _ _ found _ => exact ⟨fun _ => ⟨raw, found⟩, fun _ => rfl⟩
  | result _ _ named _ _ _ =>
      refine ⟨nofun, fun ⟨raised, found⟩ => ?_⟩
      exact absurd (named.of_lookup members _ "error" raised found) (by decide)

theorem Message.is_object (message : Message) : ∃ members, message.toJson = .obj members := by
  cases message with
  | result sent => exact ⟨_, rfl⟩
  | error sent => exact ⟨_, rfl⟩

namespace Dispatcher

theorem assemble_batch (document? : Option Json) (messages sent : List Message)
    (batch : assemble document? messages = .batch sent) :
    sent ≠ [] ∧ ∃ first rest, document? = some (.arr (first :: rest)) := by
  unfold assemble at batch
  split at batch
  · rename_i first rest
    refine ⟨?_, first, rest, rfl⟩
    rintro rfl
    cases messages <;> simp [Answer.ofMessages] at batch
  · cases answered : messages.head? <;> simp [Answer.ofMessage?, answered] at batch

theorem dispatch_batch {C M H : Type} (depth : Nat) (input : Input) (data : C) (dispatcher : Dispatcher C M H)
    (sent : List Message) (batch : (dispatch depth input data dispatcher).value = .batch sent) :
    sent ≠ [] ∧ ∃ first rest, input.document? = some (.arr (first :: rest)) := by
  rw [dispatch, dispatch_with_turns] at batch
  exact assemble_batch input.document? _ sent batch

end Dispatcher

/-- The answer to an input is nothing at all, or one object that is a response, or, to a batch only, a list of
such objects with at least one in it, and its text is this document without a blank; and it counts as an error only
where it is an object with an error. -/
theorem answers_well_formed {C M H : Type} (depth : Nat) (input : Input) (data : C) (dispatcher : Dispatcher C M H) :
    let answer := (Dispatcher.dispatch depth input data dispatcher).value
    (answer.toJson? = none → answer.text = "" ∧ answer.needsResponse = false) ∧
      (∀ document, answer.toJson? = some document →
        document.Written answer.text ∧ answer.text ≠ "" ∧ answer.needsResponse = true ∧
          ((∃ message, answer.messages = [message] ∧ message.Object document) ∨
            ∃ items first rest, document = .arr items ∧ items ≠ [] ∧
              List.Forall₂ Message.Object answer.messages items ∧ input.document? = some (.arr (first :: rest)))) ∧
      (answer.isError = true ↔
        ∃ members error, answer.toJson? = some (.obj members) ∧ members.lookup "error" = some error) := by
  intro answer
  cases answered : answer with
  | silent => simp [Answer.toJson?, Answer.text, Answer.needsResponse, Answer.isError]
  | single message =>
      obtain ⟨members, object⟩ := message.is_object
      have written := message.written_object
      have sent : (Answer.single message).toJson? = some (.obj members) := congrArg some object
      have text : (Answer.single message).text = (Json.obj members).render := by rw [Answer.text, sent]; rfl
      have shown := ((Json.obj members).written_iff _).mpr text
      rw [object] at written
      refine ⟨by simp [sent], ?_, ?_⟩
      · intro document same
        obtain rfl : .obj members = document := Option.some.inj (sent.symm.trans same)
        exact ⟨shown, text ▸ Json.object_rendered members, rfl, .inl ⟨message, rfl, written⟩⟩
      · simpa [sent, Answer.isError] using message.error_iff members written
  | batch sent =>
      obtain ⟨present, first, rest, list⟩ := Dispatcher.dispatch_batch depth input data dispatcher sent answered
      refine ⟨by simp [Answer.toJson?], ?_, by simp [Answer.isError, Answer.toJson?]⟩
      rintro document ⟨⟩
      have objects : List.Forall₂ Message.Object sent (sent.map Message.toJson) :=
        List.forall₂_map_right_iff.mpr (List.forall₂_same.mpr fun message _ => message.written_object)
      have shown := ((Json.arr (sent.map Message.toJson)).written_iff _).mpr rfl
      exact ⟨shown, Json.list_rendered _, rfl, .inr ⟨_, first, rest, rfl, by simpa using present, objects, list⟩⟩

end JsonRpc
