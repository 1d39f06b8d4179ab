import JsonRpc.Proofs.Quiet
import JsonRpc.Proofs.Validation

set_option autoImplicit false

namespace JsonRpc

variable {C M H : Type}

inductive Passage (data : C) (registry : Registry C M) (candidate : Candidate) : Prop
  | refused (error : RpcError) (refused : candidate.request = .error error)
  | unknown (request : Request) (accepted : candidate.request = .ok request)
      (unknown : registry.lookup request.method = none)
  | unfit (request : Request) (method : Method C M) (misfit : Misfit) (accepted : candidate.request = .ok request)
      (registered : registry.lookup request.method = some method)
      (unfit : method.marshal (request.context data) request.params = .error misfit)
  | runs (request : Request) (method : Method C M) (arguments : Arguments) (action : Action C M)
      (accepted : candidate.request = .ok request) (registered : registry.lookup request.method = some method)
      (fits : method.marshal (request.context data) request.params = .ok (arguments, action))

theorem passage (data : C) (registry : Registry C M) (candidate : Candidate) : Passage data registry candidate := by
  cases validated : candidate.request with
  | error error => exact .refused error validated
  | ok request =>
      cases registered : registry.lookup request.method with
      | none => exact .unknown request validated registered
      | some method =>
          cases fits : method.marshal (request.context data) request.params with
          | error misfit => exact .unfit request method misfit validated registered fits
          | ok bound => exact .runs request method bound.1 bound.2 validated registered fits

theorem Candidate.accepted_object (candidate : Candidate) (request : Request)
    (accepted : candidate.request = .ok request) :
    ∃ members, candidate = .value (.obj members) ∧ Request.ofJson (.obj members) = .ok request := by
  cases candidate with
  | value raw =>
      obtain ⟨members, _, _, rfl, _⟩ := Request.of_json_accepted raw request accepted
      exact ⟨members, rfl, accepted⟩
  | _ => cases accepted

theorem Candidate.accepted_named (candidate : Candidate) (request : Request)
    (accepted : candidate.request = .ok request) : request.method ≠ "" := by
  obtain ⟨members, _, valid⟩ := candidate.accepted_object request accepted
  exact Request.accepted_method (.obj members) request valid

-- The calls of an observer for one candidate: one before, at most one when a method is called, one after.
structure Block (C : Type) where
  raw : Json
  opening : Context C
  invoked : Option String
  method : String
  outcome : Except RpcError Json
  context : Context C

namespace Block

def invocation (block : Block C) : List (HookCall C) :=
  block.invoked.toList.map fun method => .beforeInvoke method block.context

def calls (block : Block C) : List (HookCall C) :=
  [.beforeRequest block.raw block.opening] ++ block.invocation ++
    [.afterRequest block.method block.outcome block.context]

end Block

namespace Dispatcher

variable (nested : String → C → Run C M H Answer)

def outcome (data : C) (candidate : Candidate) (dispatcher : Dispatcher C M H) : Except RpcError Json :=
  match candidate.request with
  | .error error => .error error
  | .ok request => (invoke nested request (request.context data) dispatcher.counted).value

theorem outcome_unknown (data : C) (candidate : Candidate) (dispatcher : Dispatcher C M H) (request : Request)
    (accepted : candidate.request = .ok request) (unknown : dispatcher.registry.lookup request.method = none) :
    outcome nested data candidate dispatcher = .error .methodNotFound := by
  simp [outcome, accepted, invoke_unknown nested dispatcher.counted request (request.context data) unknown]

theorem outcome_unfit (data : C) (candidate : Candidate) (dispatcher : Dispatcher C M H) (request : Request)
    (method : Method C M) (misfit : Misfit) (accepted : candidate.request = .ok request)
    (registered : dispatcher.registry.lookup request.method = some method)
    (unfit : method.marshal (request.context data) request.params = .error misfit) :
    outcome nested data candidate dispatcher = .error misfit.toRpcError := by
  simp [outcome, accepted,
    invoke_misfit nested dispatcher.counted request (request.context data) method misfit registered unfit]

def announced (registry : Registry C M) (request : Request) : Option String :=
  if registry.contains request.method then some request.method else none

-- What an observer is told of a candidate. One that is refused has no name yet and nothing but the caller's
-- own value around it.
def block (data : C) (registry : Registry C M) (candidate : Candidate) (outcome : Except RpcError Json) : Block C :=
  let opening := Context.ofCaller data
  match candidate.request with
  | .error _ => { raw := candidate.raw, opening, invoked := none, method := "", outcome, context := opening }
  | .ok request =>
      { raw := candidate.raw, opening, invoked := announced registry request, method := request.method, outcome,
        context := request.context data }

theorem block_outcome (data : C) (registry : Registry C M) (candidate : Candidate) (outcome : Except RpcError Json) :
    (block data registry candidate outcome).outcome = outcome := by
  unfold block
  cases candidate.request <;> rfl

theorem invoke_calls (hidden : ∀ text data, (nested text data).Hidden) (request : Request) (context : Context C)
    (dispatcher : Dispatcher C M H) :
    Trace.hookCalls (Trace.atDepth 0 (invoke nested request context dispatcher).trace) =
      Trace.told dispatcher.observer
        ((announced dispatcher.registry request).toList.map fun method => .beforeInvoke method context) := by
  apply invoke_cases nested dispatcher request context fun step =>
    Trace.hookCalls (Trace.atDepth 0 step.trace) = Trace.told dispatcher.observer
      ((announced dispatcher.registry request).toList.map fun method => .beforeInvoke method context)
  · intro unknown
    simp [announced, Registry.contains, unknown]
  · intro method misfit registered _
    simp [announced, Registry.contains, registered]
  · intro method arguments action registered _
    have inner := (Run.perform_hidden nested hidden action dispatcher).1
    simp [announced, Registry.contains, registered, inner]

theorem handle_block (discreet : Discreet nested) (data : C) (candidate : Candidate) (dispatcher : Dispatcher C M H) :
    Trace.hookCalls (Trace.atDepth 1 (handle nested data candidate dispatcher).trace) =
      Trace.told dispatcher.observer
        (block data dispatcher.registry candidate (outcome nested data candidate dispatcher)).calls := by
  simp only [Block.calls, Block.invocation, Trace.told_append]
  cases validated : candidate.request with
  | error error =>
      simp [handle_refused nested dispatcher data candidate error validated, block, outcome, validated]
  | ok request =>
      have calls := invoke_calls nested discreet.hidden request (request.context data) dispatcher.counted
      have kept := invoke_observer nested discreet.observer request (request.context data) dispatcher.counted
      simp [handle_accepted nested dispatcher data candidate request validated, block, outcome, validated, calls, kept]

theorem handle_message (data : C) (candidate : Candidate) (dispatcher : Dispatcher C M H) (message : Message)
    (sent : (handle nested data candidate dispatcher).value = some message) :
    message = .ofOutcome message.id (outcome nested data candidate dispatcher) := by
  cases validated : candidate.request with
  | error error =>
      rw [handle_refused nested dispatcher data candidate error validated] at sent
      simp only [outcome, validated]
      cases sent
      rfl
  | ok request =>
      rw [handle_accepted nested dispatcher data candidate request validated] at sent
      simp only [outcome, validated]
      obtain ⟨id, _, rfl⟩ := Option.map_eq_some_iff.mp sent
      rw [Message.of_outcome_id]

end Dispatcher

end JsonRpc
