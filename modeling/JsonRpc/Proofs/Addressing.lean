import Mathlib.Data.List.Forall2
import JsonRpc.Proofs.Quiet
import JsonRpc.Proofs.Validation

set_option autoImplicit false

namespace JsonRpc

variable {C M H : Type} (depth : Nat)

def Json.attributedId (entry : Json) : Json :=
  match entry.get? "id" with
  | some (.str value) => .str value
  | some (.num value) => .num value
  | _ => .null

def Json.isSilent (entry : Json) : Bool := (Request.ofJson entry).toBool && (entry.get? "id").isNone

structure Message.Addressed (message : Message) (entry : Json) : Prop where
  id : message.id.toJson = entry.attributedId
  encoded : message.toJson.get? "id" = some entry.attributedId

theorem Message.encoded_id (message : Message) : message.toJson.get? "id" = some message.id.toJson := by
  cases message <;> rfl

theorem Message.addressed_of_id (message : Message) (entry : Json) (same : message.id.toJson = entry.attributedId) :
    message.Addressed entry :=
  ⟨same, message.encoded_id.trans (congrArg some same)⟩

theorem Request.tentative_id_attributed (raw : Json) : (tentativeId raw).toJson = raw.attributedId := by
  simp only [tentativeId, Json.attributedId]
  cases raw.get? "id" with
  | none => rfl
  | some id => cases id <;> rfl

theorem Json.attributed_of_id (entry : Json) (id : RequestId) (present : entry.get? "id" = some id.toJson) :
    entry.attributedId = id.toJson := by
  cases id <;> simp [attributedId, present, RequestId.toJson]

namespace Dispatcher

variable (nested : String → C → Run C M H Answer) (data : C)

-- Two sources of identifiers agree: that of a valid request, and the one looked up where validation fails.
theorem handle_addressed (raw : Json) (dispatcher : Dispatcher C M H) :
    let message? := (handle nested data (.value raw) dispatcher).value
    (raw.isSilent = true → message? = none) ∧
      (raw.isSilent = false → ∃ message, message? = some message ∧ message.Addressed raw) := by
  cases validated : Request.ofJson raw with
  | error error =>
      rw [handle_refused nested dispatcher data (.value raw) error validated]
      refine ⟨by simp [Json.isSilent, validated, Except.toBool], fun _ => ⟨_, rfl, ?_⟩⟩
      exact Message.addressed_of_id _ raw (Request.tentative_id_attributed raw)
  | ok request =>
      have member := Request.accepted_id raw request validated
      rw [handle_accepted nested dispatcher data (.value raw) request validated]
      cases identified : request.id with
      | none =>
          have absent : raw.get? "id" = none := by simp [member, identified]
          exact ⟨fun _ => rfl, by simp [Json.isSilent, validated, absent, Except.toBool]⟩
      | some id =>
          have present : raw.get? "id" = some id.toJson := by simp [member, identified]
          refine ⟨by simp [Json.isSilent, present], fun _ => ⟨_, rfl, ?_⟩⟩
          apply Message.addressed_of_id
          rw [Message.of_outcome_id, Json.attributed_of_id raw id present]

def answered (entries : List Json) : List Json := entries.filter fun entry => !entry.isSilent

theorem messages_addressed (entries : List Json) (dispatcher : Dispatcher C M H) :
    List.Forall₂ Message.Addressed (messages (Run.turns (handle nested data) (entries.map .value) dispatcher))
      (answered entries) := by
  induction entries generalizing dispatcher with
  | nil => exact .nil
  | cons entry rest ih =>
      obtain ⟨silent, loud⟩ := handle_addressed nested data entry dispatcher
      have later := ih (handle nested data (.value entry) dispatcher).dispatcher
      cases quiet : entry.isSilent with
      | true => simpa [Run.turns, messages, answered, silent quiet, quiet] using later
      | false =>
          obtain ⟨message, sent, addressed⟩ := loud quiet
          simpa [Run.turns, messages, answered, sent, quiet] using And.intro addressed later

theorem answered_nil_iff (entries : List Json) : answered entries = [] ↔ ∀ entry ∈ entries, entry.isSilent = true := by
  simp [answered, List.filter_eq_nil_iff]

theorem answered_length (entries : List Json) :
    (answered entries).length + entries.countP Json.isSilent = entries.length := by
  induction entries with
  | nil => rfl
  | cons entry rest ih =>
      simp only [answered] at ih ⊢
      cases silent : entry.isSilent <;> simp [silent] <;> omega

theorem object_addressed (members : Members) (dispatcher : Dispatcher C M H) :
    let answer := (process depth (.obj members) data dispatcher).value
    ((Json.obj members).isSilent = true → answer = .silent) ∧
      ((Json.obj members).isSilent = false →
        ∃ message, answer = .single message ∧ message.Addressed (.obj members)) := by
  intro answer
  obtain ⟨silent, loud⟩ := handle_addressed (callback depth) data (.obj members) dispatcher
  have value : answer =
      .ofMessage? (handle (callback depth) data (.value (.obj members)) dispatcher).value := by
    simp [answer, process, processWith, process_one_handle]
  constructor
  · intro quiet
    rw [value, silent quiet]
    rfl
  · intro heard
    obtain ⟨message, sent, addressed⟩ := loud heard
    rw [value, sent]
    exact ⟨message, rfl, addressed⟩

theorem list_addressed (first : Json) (rest : List Json) (dispatcher : Dispatcher C M H) :
    let entries := first :: rest
    let answer := (process depth (.arr entries) data dispatcher).value
    List.Forall₂ Message.Addressed answer.messages (answered entries) ∧
      (answered entries = [] → answer = .silent) ∧
      (answered entries ≠ [] → ∃ messages, answer = .batch messages) := by
  intro entries answer
  have addressed := messages_addressed (callback depth) data entries dispatcher
  have value : answer = .ofMessages (messages
      (Run.turns (handle (callback depth) data) (entries.map .value) dispatcher)) :=
    congrArg Step.value (process_with_turns (callback depth) data (.arr entries) dispatcher)
  generalize messages (Run.turns (handle (callback depth) data) (entries.map .value) dispatcher) = sent
    at addressed value
  rw [value]
  cases sent with
  | nil =>
      have nobody : answered entries = [] := List.forall₂_nil_left_iff.mp addressed
      exact ⟨addressed, fun _ => rfl, fun someone => absurd nobody someone⟩
  | cons message others =>
      refine ⟨addressed, fun nobody => ?_, fun _ => ⟨_, rfl⟩⟩
      rw [nobody] at addressed
      cases addressed

theorem scalar_addressed (document : Json) (noObject : document.isObject = false)
    (noBatch : ∀ first rest, document ≠ .arr (first :: rest)) (dispatcher : Dispatcher C M H) :
    ∃ message, (process depth document data dispatcher).value = .single message ∧ message.id = .null ∧
      message.Addressed document := by
  cases document with
  | obj members => simp [Json.isObject] at noObject
  | arr entries =>
      cases entries with
      | nil => exact ⟨_, rfl, rfl, rfl, rfl⟩
      | cons first rest => exact absurd rfl (noBatch first rest)
  | _ => exact ⟨_, rfl, rfl, rfl, rfl⟩

/-- An object is not answered if it is silent and is answered under its own identifier otherwise. A batch
is answered entry by entry in that way, and everything else under `null`. -/
theorem answers_addressed (document : Json) (dispatcher : Dispatcher C M H) :
    let answer := (process depth document data dispatcher).value
    (document.isObject = true →
      (answer = .silent ↔ document.isSilent = true) ∧
        (document.isSilent = false → ∃ message, answer = .single message ∧ message.Addressed document)) ∧
    (∀ first rest, document = .arr (first :: rest) →
      List.Forall₂ Message.Addressed answer.messages (answered (first :: rest)) ∧
        answer.messages.length + (first :: rest).countP Json.isSilent = (first :: rest).length ∧
        (answer = .silent ↔ ∀ entry ∈ first :: rest, entry.isSilent = true) ∧
        (answer ≠ .silent → ∃ messages, answer = .batch messages)) ∧
    (document.isObject = false → (∀ first rest, document ≠ .arr (first :: rest)) →
      ∃ message, answer = .single message ∧ message.id = .null ∧ message.Addressed document) := by
  intro answer
  refine ⟨fun object => ?_, fun first rest list => ?_, fun noObject noBatch =>
    scalar_addressed depth data document noObject noBatch dispatcher⟩
  · obtain ⟨members, rfl⟩ := (is_object_iff document).mp object
    obtain ⟨silent, loud⟩ := object_addressed depth data members dispatcher
    refine ⟨⟨fun unanswered => ?_, silent⟩, loud⟩
    cases quiet : (Json.obj members).isSilent with
    | true => rfl
    | false =>
        obtain ⟨message, sent, _⟩ := loud quiet
        exact Answer.noConfusion (unanswered.symm.trans sent)
  · subst list
    obtain ⟨addressed, silent, batch⟩ := list_addressed depth data first rest dispatcher
    refine ⟨addressed, ?_, ?_, ?_⟩
    · rw [addressed.length_eq]
      exact answered_length (first :: rest)
    · rw [← answered_nil_iff]
      refine ⟨fun unanswered => ?_, silent⟩
      by_contra someone
      obtain ⟨messages, sent⟩ := batch someone
      exact Answer.noConfusion (unanswered.symm.trans sent)
    · intro heard
      by_cases nobody : answered (first :: rest) = []
      · exact absurd (silent nobody) heard
      · exact batch nobody

theorem echoed_addressed :
    let call : Json := .obj [("id", .num (.ofInt64 7)), ("jsonrpc", .str "2.0"), ("method", .str "echo")]
    let invalid : Json := .obj [("id", .str "a"), ("method", .str "echo")]
    let note : Json := .obj [("jsonrpc", .str "2.0"), ("method", .str "echo")]
    let entries := [invalid, note, call, .arr [call]]
    let answer := (process 1 (.arr entries) () echoing).value
    (∃ message, (process 1 call () echoing).value = .single message ∧
      message.toJson.get? "id" = some (.num (.ofInt64 7))) ∧
    List.Forall₂ Message.Addressed answer.messages [invalid, call, .arr [call]] ∧
    [invalid, call, .arr [call]].map Json.attributedId = [.str "a", .num (.ofInt64 7), .null] ∧
    (∃ message, (process 1 (.bool true) () echoing).value = .single message ∧ message.id = .null) := by
  intro call invalid note entries answer
  obtain ⟨message, sent, addressed⟩ := ((answers_addressed 1 () call echoing).1 rfl).2 rfl
  obtain ⟨list, _⟩ := (answers_addressed 1 () (.arr entries) echoing).2.1 invalid [note, call, .arr [call]] rfl
  obtain ⟨other, refused, unaddressed, _⟩ := (answers_addressed 1 () (.bool true) echoing).2.2 rfl (by simp)
  exact ⟨⟨message, sent, addressed.encoded⟩, list, rfl, other, refused, unaddressed⟩

end Dispatcher

end JsonRpc
