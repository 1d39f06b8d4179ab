import JsonRpc.Proofs.Quiet
import JsonRpc.Proofs.Relevance
import JsonRpc.Proofs.Resemblance

set_option autoImplicit false

namespace JsonRpc

variable {C M H : Type} (depth : Nat)

def Members.SameReserved (members others : Members) : Prop :=
  members.filter (fun member => Request.isReserved member.1) = others.filter fun member => Request.isReserved member.1

def Method.IsPlain (method : Method C M) : Prop := ∃ types body, method = .plain types body

namespace Request

def withoutExtra (request : Request) : Request := { request with extra := [] }

theorem without_extra_same (request accepted : Request) (same : request.withoutExtra = accepted.withoutExtra) :
    request.method = accepted.method ∧ request.params = accepted.params ∧ request.id = accepted.id := by
  simpa [withoutExtra] using same

theorem of_json_reserved (members others : Members) (same : members.SameReserved others) :
    ofJson (.obj members) =
      (ofJson (.obj others)).map fun request => { request with extra := extraMembers members } := by
  have envelope := envelope_kept isReserved rfl rfl members others same
  have params := Members.lookup_kept isReserved members others same "params" rfl
  have id := Members.lookup_kept isReserved members others same "id" rfl
  exact of_json_members members others envelope (by rw [params]) id

end Request

namespace Candidate

theorem reserved_request (first second : Candidate) (varies : first.Varies Members.SameReserved second) :
    first.request.map Request.withoutExtra = second.request.map Request.withoutExtra := by
  cases varies with
  | same candidate => rfl
  | object members others same =>
      simp only [request, Request.of_json_reserved members others same]
      cases Request.ofJson (.obj others) <;> rfl

theorem reserved_refusal (first second : Candidate) (varies : first.Varies Members.SameReserved second) :
    first.returnId = second.returnId ∧ ∀ error, first.complaint error = second.complaint error := by
  cases varies with
  | same candidate => exact ⟨rfl, fun _ => rfl⟩
  | object members others same =>
      have id := Members.lookup_kept Request.isReserved members others same "id" rfl
      refine ⟨?_, fun _ => rfl⟩
      simp only [returnId, Request.tentativeId, Json.get?, id]

theorem reserved_counterparts (first second : Candidate) (varies : first.Varies Members.SameReserved second)
    (registry : Registry C M) (data other : C)
    (plain : ∀ request method, first.request = .ok request → registry.lookup request.method = some method →
      method.IsPlain) : Counterparts (fun _ _ => True) registry data other first second := by
  have requests := first.reserved_request second varies
  obtain ⟨returnId, complaint⟩ := first.reserved_refusal second varies
  cases validated : first.request with
  | error error =>
      cases counterpart : second.request with
      | error refusal =>
          have same : error = refusal := by simpa [validated, counterpart, Except.map] using requests
          exact .refused error validated (same ▸ counterpart) returnId (complaint error)
      | ok accepted => simp [validated, counterpart, Except.map] at requests
  | ok request =>
      cases counterpart : second.request with
      | error refusal => simp [validated, counterpart, Except.map] at requests
      | ok accepted =>
          have same : request.withoutExtra = accepted.withoutExtra := by
            simpa [validated, counterpart, Except.map] using requests
          obtain ⟨method, params, id⟩ := request.without_extra_same accepted same
          refine .accepted request accepted validated counterpart method id trivial fun found registered => ?_
          obtain ⟨types, body, rfl⟩ := plain request found validated registered
          rw [params]
          exact ⟨rfl, rfl⟩

end Candidate

namespace Dispatcher

def NamesPlain (document : Json) (data : C) (dispatcher : Dispatcher C M H) : Prop :=
  ∀ turn ∈ Run.turns (handle (callback depth) data) (Candidate.ofDocument document) dispatcher,
    ∀ request method, turn.item.request = .ok request →
      turn.start.registry.lookup request.method = some method → method.IsPlain

theorem names_plain_quiet (document : Json) (data : C) (dispatcher : Dispatcher C M H)
    (quiet : dispatcher.registry.Quiet)
    (plain : ∀ candidate ∈ Candidate.ofDocument document, ∀ request method, candidate.request = .ok request →
      dispatcher.registry.lookup request.method = some method → method.IsPlain) :
    NamesPlain depth document data dispatcher := by
  intro turn taken request method accepted registered
  have registry := turns_registry (callback depth) data (Candidate.ofDocument document) dispatcher quiet turn taken
  have item : turn.item ∈ Candidate.ofDocument document := by
    rw [← Run.turns_items (handle (callback depth) data) (Candidate.ofDocument document) dispatcher]
    exact List.mem_map_of_mem taken
  rw [registry] at registered
  exact plain turn.item item request method accepted registered

/-- Neither the caller's value nor a member with no meaning in the protocol has any part in validation. If the
methods named take no context, then neither has any part in the answer, in the dispatcher afterwards or in the
bodies run. -/
theorem contexts_do_not_interfere (data other : C) (document another : Json)
    (same : document.VariesIn Members.SameReserved another) (dispatcher : Dispatcher C M H) :
    let step := process depth document data dispatcher
    let counterpart := process depth another other dispatcher
    (Candidate.ofDocument document).map (fun candidate => candidate.request.map Request.withoutExtra) =
        (Candidate.ofDocument another).map (fun candidate => candidate.request.map Request.withoutExtra) ∧
      (NamesPlain depth document data dispatcher →
        step.value = counterpart.value ∧ step.dispatcher = counterpart.dispatcher ∧
          Trace.bodies step.trace = Trace.bodies counterpart.trace ∧
          Trace.Resembles (fun _ _ => True) step.trace counterpart.trace) := by
  intro step counterpart
  constructor
  · have requests := (Candidate.document_varies _ document another same).imp Candidate.reserved_request
    rw [← List.forall₂_eq_eq_eq, List.forall₂_map_left_iff, List.forall₂_map_right_iff]
    exact requests
  · intro plain
    obtain ⟨value, reached, trace⟩ := process_resembles (callback depth) (fun _ _ => True) data other
      Members.SameReserved trivial document another same dispatcher
      fun turn taken second varies =>
        turn.item.reserved_counterparts second varies turn.start.registry data other (plain turn taken)
    exact ⟨value, reached, Trace.resembles_bodies _ _ _ trace, trace⟩

def repeater : Method String Unit := .plain [.json] fun (params, ()) => .succeed params

def greeter : Method String Unit := .withContext [] fun context () => .succeed (.str context.data)

def hosting : Dispatcher String Unit Unit :=
  (add "greet" greeter (add "repeat" repeater (create (some ()) ())).dispatcher).dispatcher

theorem hosting_quiet : hosting.registry.Quiet := by
  have repeats : repeater.Quiet := Method.plain_quiet _ _ fun _ => trivial
  have greets : greeter.Quiet := Method.with_context_quiet _ _ fun _ _ => trivial
  have first := Registry.quiet_register Registry.empty Registry.quiet_empty "repeat" repeater repeats
  exact Registry.quiet_register _ first "greet" greeter greets

theorem repeated_to_anyone :
    let call (extra : Members) : Json :=
      .obj (extra ++ [("id", .str "a"), ("jsonrpc", .str "2.0"), ("method", .str "repeat"),
        ("params", .arr [.bool true])])
    let entries := [call [("trace", .str "t")], .obj [("id", .str "b")], .null]
    let others := [call [], .obj [("id", .str "b"), ("trace", .null)], .null]
    (Json.arr entries).VariesIn Members.SameReserved (.arr others) ∧ NamesPlain 1 (.arr entries) "ann" hosting ∧
      (process 1 (.arr entries) "ann" hosting).value = (process 1 (.arr others) "bob" hosting).value ∧
      (process 1 (.arr others) "bob" hosting).dispatcher.requestsSeen = 3 ∧
      Trace.bodies (process 1 (.arr entries) "ann" hosting).trace = [⟨"repeat", none, [.arr [.bool true]]⟩] := by
  intro call entries others
  have same : (Json.arr entries).VariesIn Members.SameReserved (.arr others) :=
    .batch _ _ (.cons (.object _ _ rfl) (.cons (.object _ _ rfl) (.cons (.same .null) .nil)))
  have plain : NamesPlain 1 (.arr entries) "ann" hosting := by
    refine names_plain_quiet 1 (.arr entries) "ann" hosting hosting_quiet ?_
    intro candidate member request method accepted registered
    simp only [Candidate.ofDocument, entries, List.map, List.mem_cons, List.not_mem_nil, or_false] at member
    rcases member with rfl | rfl | rfl
    · cases accepted
      cases registered
      exact ⟨_, _, rfl⟩
    · cases accepted
    · cases accepted
  obtain ⟨_, undisturbed⟩ := contexts_do_not_interfere 1 "ann" "bob" (.arr entries) (.arr others) same hosting
  obtain ⟨value, _, bodies, _⟩ := undisturbed plain
  exact ⟨same, plain, value, rfl, bodies.trans rfl⟩

end Dispatcher

end JsonRpc
