import JsonRpc.Proofs.Candidate

set_option autoImplicit false

namespace JsonRpc

variable {C M H : Type}

def Request.context (request : Request) (data : C) : Context C := { data, extra := request.extra }

@[simp] theorem Message.of_outcome_id (id : RequestId) (outcome : Except RpcError Json) :
    (Message.ofOutcome id outcome).id = id := by
  cases outcome <;> rfl

namespace Dispatcher

@[simp] theorem counted_report (dispatcher : Dispatcher C M H) (call : HookCall C) :
    dispatcher.counted.report call = dispatcher.report call := rfl

def given (method : Method C M) (context : Context C) : Option (Context C) :=
  if method.shape.context then some context else none

variable (nested : String → C → Run C M H Answer) (dispatcher : Dispatcher C M H)

def classify (outcome : Outcome) : Except RpcError Json := outcome.toResult.mapError InvocationError.toRpcError

theorem call_misfit (method : Method C M) (request : Request) (context : Context C) (misfit : Misfit)
    (unfit : method.marshal context request.params = .error misfit) :
    call nested method request context dispatcher =
      ⟨.error misfit.toRpcError, dispatcher, dispatcher.report (.beforeInvoke request.method context)⟩ := by
  simp [call, unfit]

theorem call_runs (method : Method C M) (request : Request) (context : Context C) (arguments : Arguments)
    (action : Action C M) (fits : method.marshal context request.params = .ok (arguments, action)) :
    call nested method request context dispatcher =
      let performed := Run.perform nested action dispatcher
      ⟨classify performed.value, performed.dispatcher,
        dispatcher.report (.beforeInvoke request.method context) ++
          ⟨[], .entered request.method (given method context) arguments.values⟩ :: performed.trace⟩ := by
  simp [call, fits, classify, given]

theorem invoke_unknown (request : Request) (context : Context C)
    (unknown : dispatcher.registry.lookup request.method = none) :
    invoke nested request context dispatcher = ⟨.error .methodNotFound, dispatcher, []⟩ := by
  simp [invoke, unknown]

theorem invoke_call (request : Request) (context : Context C) (method : Method C M)
    (registered : dispatcher.registry.lookup request.method = some method) :
    invoke nested request context dispatcher = call nested method request context dispatcher := by
  simp [invoke, registered]

theorem invoke_misfit (request : Request) (context : Context C) (method : Method C M) (misfit : Misfit)
    (registered : dispatcher.registry.lookup request.method = some method)
    (unfit : method.marshal context request.params = .error misfit) :
    invoke nested request context dispatcher =
      ⟨.error misfit.toRpcError, dispatcher, dispatcher.report (.beforeInvoke request.method context)⟩ := by
  rw [invoke_call nested dispatcher request context method registered]
  exact call_misfit nested dispatcher method request context misfit unfit

theorem invoke_runs (request : Request) (context : Context C) (method : Method C M) (arguments : Arguments)
    (action : Action C M) (registered : dispatcher.registry.lookup request.method = some method)
    (fits : method.marshal context request.params = .ok (arguments, action)) :
    invoke nested request context dispatcher =
      let performed := Run.perform nested action dispatcher
      ⟨classify performed.value, performed.dispatcher,
        dispatcher.report (.beforeInvoke request.method context) ++
          ⟨[], .entered request.method (given method context) arguments.values⟩ :: performed.trace⟩ := by
  rw [invoke_call nested dispatcher request context method registered]
  exact call_runs nested dispatcher method request context arguments action fits

theorem invoke_cases (request : Request) (context : Context C) (holds : Step C M H (Except RpcError Json) → Prop)
    (unknown : dispatcher.registry.lookup request.method = none → holds ⟨.error .methodNotFound, dispatcher, []⟩)
    (unfit : ∀ method misfit, dispatcher.registry.lookup request.method = some method →
      method.marshal context request.params = .error misfit →
      holds ⟨.error misfit.toRpcError, dispatcher, dispatcher.report (.beforeInvoke request.method context)⟩)
    (runs : ∀ method arguments action, dispatcher.registry.lookup request.method = some method →
      method.marshal context request.params = .ok (arguments, action) →
      let performed := Run.perform nested action dispatcher
      holds ⟨classify performed.value, performed.dispatcher,
        dispatcher.report (.beforeInvoke request.method context) ++
          ⟨[], .entered request.method (given method context) arguments.values⟩ :: performed.trace⟩) :
    holds (invoke nested request context dispatcher) := by
  cases registered : dispatcher.registry.lookup request.method with
  | none =>
      rw [invoke_unknown nested dispatcher request context registered]
      exact unknown registered
  | some method =>
      cases fits : method.marshal context request.params with
      | error misfit =>
          rw [invoke_misfit nested dispatcher request context method misfit registered fits]
          exact unfit method misfit registered fits
      | ok bound =>
          rw [invoke_runs nested dispatcher request context method bound.1 bound.2 registered fits]
          exact runs method bound.1 bound.2 registered fits

def failureNotices (method : String) : Except RpcError Json → List Notice
  | .ok _ => []
  | .error error => [.failed method error]

def silenceNotices (request : Request) : List Notice :=
  if request.isNotification then [.notification request.method] else []

@[simp] theorem log_failure_apply (method : String) (outcome : Except RpcError Json) :
    logFailure method outcome dispatcher = ⟨(), dispatcher, Trace.ofNotices (failureNotices method outcome)⟩ := by
  cases outcome <;> rfl

@[simp] theorem reply_apply (request : Request) (outcome : Except RpcError Json) :
    reply request outcome dispatcher =
      ⟨request.id.map fun id => .ofOutcome id outcome, dispatcher, Trace.ofNotices (silenceNotices request)⟩ := by
  cases present : request.id <;> simp [reply, present, silenceNotices, Request.isNotification, Trace.ofNotices]

theorem handle_refused (data : C) (candidate : Candidate) (error : RpcError)
    (refused : candidate.request = .error error) :
    handle nested data candidate dispatcher =
      ⟨some (.failure candidate.returnId error), dispatcher.counted,
        (dispatcher.report (.beforeRequest candidate.raw (Context.ofCaller data)) ++
          Trace.ofNotices [candidate.complaint error] ++
          dispatcher.report (.afterRequest "" (.error error) (Context.ofCaller data))).map
          (Entry.within dispatcher.sequence)⟩ := by
  simp [handle, refused, refuse, Trace.ofNotices]

theorem handle_accepted (data : C) (candidate : Candidate) (request : Request)
    (accepted : candidate.request = .ok request) :
    handle nested data candidate dispatcher =
      let context := request.context data
      let invoked := invoke nested request context dispatcher.counted
      ⟨request.id.map fun id => .ofOutcome id invoked.value, invoked.dispatcher,
        (dispatcher.report (.beforeRequest candidate.raw (Context.ofCaller data)) ++
          Trace.ofNotices [.dispatching request.method request.id] ++ invoked.trace ++
          Trace.ofNotices (failureNotices request.method invoked.value) ++
          invoked.dispatcher.report (.afterRequest request.method invoked.value context) ++
          Trace.ofNotices (silenceNotices request)).map (Entry.within dispatcher.sequence)⟩ := by
  simp [handle, accepted, processAccepted, Request.context, Trace.ofNotices]

end Dispatcher

end JsonRpc
