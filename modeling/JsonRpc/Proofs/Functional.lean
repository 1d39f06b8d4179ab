import JsonRpc.Proofs.History

set_option autoImplicit false

namespace JsonRpc

variable {C M H : Type}

def Action.EndsIn (outcome : Outcome) : Action C M → Prop
  | .finish other => other = outcome
  | .log _ next => next.EndsIn outcome
  | .remember _ next => ∀ memory, (next memory).EndsIn outcome
  | .dispatch _ _ _ => False
  | .register _ _ _ => False

def Method.Functional (method : Method C M) : Prop :=
  ∀ context arguments action, method.start context arguments = .ok action → ∃ outcome, action.EndsIn outcome

def Registry.Functional (registry : Registry C M) : Prop :=
  ∀ name method, registry.lookup name = some method → method.Functional

theorem Action.ends_quiet (action : Action C M) (outcome : Outcome) (ends : action.EndsIn outcome) : action.Quiet := by
  cases action with
  | finish other => trivial
  | log record next => exact ends_quiet next outcome ends
  | remember update next => exact fun memory => ends_quiet (next memory) outcome (ends memory)
  | dispatch text data next => exact False.elim ends
  | register name method next => exact False.elim ends

theorem Method.functional_quiet (method : Method C M) (functional : method.Functional) : method.Quiet := by
  intro context arguments action started
  obtain ⟨outcome, ends⟩ := functional context arguments action started
  exact action.ends_quiet outcome ends

theorem Registry.functional_quiet (registry : Registry C M) (functional : registry.Functional) : registry.Quiet :=
  fun name method registered => method.functional_quiet (functional name method registered)

theorem Method.plain_functional (types : List ParamType) (body : ParamType.Tuple types → Action C M)
    (functional : ∀ values, ∃ outcome, (body values).EndsIn outcome) : (Method.plain types body).Functional := by
  intro context arguments action started
  obtain ⟨values, rfl⟩ := plain_started types body context arguments action started
  exact functional values

theorem Registry.functional_empty : (Registry.empty : Registry C M).Functional := by
  intro name method registered
  simp [lookup, empty] at registered

theorem Registry.functional_register (registry : Registry C M) (functional : registry.Functional) (name : String)
    (method : Method C M) (functionalMethod : method.Functional) : (registry.register name method).2.Functional := by
  intro other found registered
  rcases registry.registered_from name other method found registered with known | same
  · exact functional other found known
  · exact same ▸ functionalMethod

def Entry.shown? (entry : Entry C H) : Option (Event C H) :=
  match entry.event with
  | .log _ => none
  | event => some event

def Trace.outline (trace : List (Entry C H)) : List (Event C H) := trace.filterMap Entry.shown?

namespace Trace

@[simp] theorem outline_append (first second : List (Entry C H)) :
    outline (first ++ second) = outline first ++ outline second := List.filterMap_append

@[simp] theorem outline_within (sequence : UInt64) (trace : List (Entry C H)) :
    outline (trace.map (Entry.within sequence)) = outline trace := by
  simp only [outline, List.filterMap_map]
  rfl

theorem hook_calls_outline (trace : List (Entry C H)) :
    hookCalls trace = (outline trace).filterMap fun event => Entry.hookCall? ⟨[], event⟩ := by
  simp only [hookCalls, outline, List.filterMap_filterMap]
  refine List.filterMap_congr fun entry _ => ?_
  obtain ⟨spans, event⟩ := entry
  cases event <;> rfl

theorem bodies_outline (trace : List (Entry C H)) :
    bodies trace = (outline trace).filterMap fun event => Entry.body? ⟨[], event⟩ := by
  simp only [bodies, outline, List.filterMap_filterMap]
  refine List.filterMap_congr fun entry _ => ?_
  obtain ⟨spans, event⟩ := entry
  cases event <;> rfl

end Trace

theorem Run.perform_ends (nested : String → C → Run C M H Answer) (action : Action C M) (outcome : Outcome)
    (ends : action.EndsIn outcome) (dispatcher : Dispatcher C M H) :
    (perform nested action dispatcher).value = outcome ∧
      Trace.outline (perform nested action dispatcher).trace = [] := by
  cases action with
  | finish other => exact ⟨ends, rfl⟩
  | log record next => exact perform_ends nested next outcome ends dispatcher
  | remember update next => exact perform_ends nested (next dispatcher.memory) outcome (ends dispatcher.memory) _
  | dispatch text data next => exact False.elim ends
  | register name method next => exact False.elim ends

namespace Dispatcher

theorem outcome_ends (nested : String → C → Run C M H Answer) (data : C) (candidate : Candidate)
    (dispatcher : Dispatcher C M H) (request : Request) (method : Method C M) (arguments : Arguments)
    (action : Action C M) (outcome : Outcome) (accepted : candidate.request = .ok request)
    (registered : dispatcher.registry.lookup request.method = some method)
    (fits : method.marshal (request.context data) request.params = .ok (arguments, action))
    (ends : action.EndsIn outcome) :
    Dispatcher.outcome nested data candidate dispatcher = classify outcome := by
  have performed := (Run.perform_ends nested action outcome ends dispatcher.counted).1
  have invoked := invoke_runs nested dispatcher.counted request (request.context data) method arguments action
    registered fits
  simp [Dispatcher.outcome, accepted, invoked, performed]

theorem echo_functional : echo.Functional := Method.plain_functional _ _ fun _ => ⟨_, rfl⟩

theorem echoing_functional : echoing.registry.Functional :=
  Registry.functional_register Registry.empty Registry.functional_empty "echo" echo echo_functional

end Dispatcher

end JsonRpc
