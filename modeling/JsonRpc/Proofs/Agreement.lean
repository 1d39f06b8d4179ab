import JsonRpc.Proofs.Functional

set_option autoImplicit false

namespace JsonRpc

variable {C M H α : Type}

def Candidate.method? (candidate : Candidate) : Option String := candidate.request.toOption.map Request.method

def Input.methods (input : Input) : List String := input.candidates.filterMap Candidate.method?

theorem Candidate.accepted_method (candidate : Candidate) (request : Request)
    (accepted : candidate.request = .ok request) : candidate.method? = some request.method := by
  simp [method?, accepted, Except.toOption]

-- The steps give the same and are seen alike, but for the handlers' own records and the numbers of the spans.
structure Step.Alike (step other : Step C M H α) : Prop where
  value : step.value = other.value
  outline : Trace.outline step.trace = Trace.outline other.trace

theorem Step.alike_calls (step other : Step C M H α) (alike : step.Alike other) :
    Trace.hookCalls step.trace = Trace.hookCalls other.trace := by
  rw [Trace.hook_calls_outline, Trace.hook_calls_outline, alike.outline]

theorem Step.alike_bodies (step other : Step C M H α) (alike : step.Alike other) :
    Trace.bodies step.trace = Trace.bodies other.trace := by
  rw [Trace.bodies_outline, Trace.bodies_outline, alike.outline]

namespace Dispatcher

structure Agree (names : List String) (first second : Dispatcher C M H) : Prop where
  lookup : ∀ name ∈ names, first.registry.lookup name = second.registry.lookup name
  observer : first.observer = second.observer
  left : first.registry.Functional
  right : second.registry.Functional

theorem agree_report (names : List String) (first second : Dispatcher C M H) (agree : Agree names first second)
    (call : HookCall C) : first.report call = second.report call := by
  simp only [report, agree.observer]

theorem agree_counted (names : List String) (first second : Dispatcher C M H) (agree : Agree names first second) :
    Agree names first.counted second.counted :=
  ⟨agree.lookup, agree.observer, agree.left, agree.right⟩

theorem agree_same (names : List String) (first second : Dispatcher C M H) (registry : second.registry = first.registry)
    (observer : second.observer = first.observer) (functional : first.registry.Functional) : Agree names first second :=
  ⟨fun _ _ => by rw [registry], observer.symm, functional, registry ▸ functional⟩

variable (nested : String → C → Run C M H Answer) (data : C)

theorem invoke_alike (request : Request) (context : Context C) (names : List String) (first second : Dispatcher C M H)
    (agree : Agree names first second) (named : request.method ∈ names) :
    (invoke nested request context first).Alike (invoke nested request context second) := by
  have report := agree_report names first second agree (.beforeInvoke request.method context)
  have same := agree.lookup request.method named
  cases registered : first.registry.lookup request.method with
  | none =>
      rw [invoke_unknown nested first request context registered,
        invoke_unknown nested second request context (same ▸ registered)]
      exact ⟨rfl, rfl⟩
  | some method =>
      cases fits : method.marshal context request.params with
      | error misfit =>
          rw [invoke_misfit nested first request context method misfit registered fits,
            invoke_misfit nested second request context method misfit (same ▸ registered) fits, report]
          exact ⟨rfl, rfl⟩
      | ok bound =>
          obtain ⟨arguments, action⟩ := bound
          obtain ⟨outcome, ends⟩ := agree.left request.method method registered context arguments action
            (method.marshal_start context request.params arguments action fits).2
          obtain ⟨value, silent⟩ := Run.perform_ends nested action outcome ends first
          obtain ⟨otherValue, otherSilent⟩ := Run.perform_ends nested action outcome ends second
          rw [invoke_runs nested first request context method arguments action registered fits,
            invoke_runs nested second request context method arguments action (same ▸ registered) fits, report]
          refine ⟨congrArg classify (value.trans otherValue.symm), ?_⟩
          have entered (trace : List (Entry C H)) (silent : Trace.outline trace = []) :
              Trace.outline (⟨[], .entered request.method (given method context) arguments.values⟩ :: trace) =
                [.entered request.method (given method context) arguments.values] := congrArg (List.cons _) silent
          simp only [Trace.outline_append, entered _ silent, entered _ otherSilent]

theorem outcome_alike (candidate : Candidate) (names : List String) (first second : Dispatcher C M H)
    (agree : Agree names first second) (named : ∀ name, candidate.method? = some name → name ∈ names) :
    outcome nested data candidate first = outcome nested data candidate second := by
  cases validated : candidate.request with
  | error error => simp [outcome, validated]
  | ok request =>
      have within := named request.method (candidate.accepted_method request validated)
      have invoked := invoke_alike nested request (request.context data) names first.counted second.counted
        (agree_counted names first second agree) within
      simpa [outcome, validated] using invoked.value

theorem invoke_report (request : Request) (context : Context C) (dispatcher : Dispatcher C M H)
    (functional : dispatcher.registry.Functional) (call : HookCall C) :
    (invoke nested request context dispatcher).dispatcher.report call = dispatcher.report call := by
  obtain ⟨⟨memory, kept⟩, _⟩ :=
    invoke_calm nested request context dispatcher (dispatcher.registry.functional_quiet functional)
  rw [kept]
  rfl

theorem handle_alike (candidate : Candidate) (names : List String) (first second : Dispatcher C M H)
    (agree : Agree names first second) (named : ∀ name, candidate.method? = some name → name ∈ names) :
    (handle nested data candidate first).Alike (handle nested data candidate second) := by
  have report := agree_report names first second agree
  cases validated : candidate.request with
  | error error =>
      rw [handle_refused nested first data candidate error validated,
        handle_refused nested second data candidate error validated]
      exact ⟨rfl, by simp [report]⟩
  | ok request =>
      have within := named request.method (candidate.accepted_method request validated)
      obtain ⟨value, outline⟩ := invoke_alike nested request (request.context data) names first.counted
        second.counted (agree_counted names first second agree) within
      have left := invoke_report nested request (request.context data) first.counted agree.left
      have right := invoke_report nested request (request.context data) second.counted agree.right
      rw [handle_accepted nested first data candidate request validated,
        handle_accepted nested second data candidate request validated]
      exact ⟨by simp [value], by simp [report, value, outline, left, right]⟩

theorem agree_handle (candidate : Candidate) (names : List String) (first second : Dispatcher C M H)
    (agree : Agree names first second) :
    Agree names (handle nested data candidate first).dispatcher (handle nested data candidate second).dispatcher := by
  obtain ⟨_, left⟩ := (handle_quiet nested data candidate first (first.registry.functional_quiet agree.left)).1
  obtain ⟨_, right⟩ := (handle_quiet nested data candidate second (second.registry.functional_quiet agree.right)).1
  rw [left, right]
  exact ⟨agree.lookup, agree.observer, agree.left, agree.right⟩

theorem turns_alike (candidates : List Candidate) (names : List String) (first second : Dispatcher C M H)
    (agree : Agree names first second)
    (named : ∀ candidate ∈ candidates, ∀ name, candidate.method? = some name → name ∈ names) :
    let turns := Run.turns (handle nested data) candidates first
    let others := Run.turns (handle nested data) candidates second
    messages turns = messages others ∧ Trace.outline (traces turns) = Trace.outline (traces others) := by
  induction candidates generalizing first second with
  | nil => exact ⟨rfl, rfl⟩
  | cons candidate rest ih =>
      obtain ⟨value, outline⟩ :=
        handle_alike nested data candidate names first second agree (named candidate (by simp))
      obtain ⟨values, outlines⟩ := ih _ _ (agree_handle nested data candidate names first second agree)
        fun other member => named other (by simp [member])
      constructor
      · simp only [Run.turns, messages, List.flatMap_cons, value]
        exact congrArg _ values
      · simp only [Run.turns, traces, List.flatMap_cons, Trace.outline_append, outline]
        exact congrArg _ outlines

theorem dispatch_alike (input : Input) (first second : Dispatcher C M H) (agree : Agree input.methods first second) :
    (dispatchWith nested input data first).Alike (dispatchWith nested input data second) := by
  obtain ⟨values, outlines⟩ := turns_alike nested data input.candidates input.methods first second agree
    fun candidate member name known => List.mem_filterMap.mpr ⟨candidate, member, known⟩
  rw [dispatch_with_turns, dispatch_with_turns]
  exact ⟨congrArg (assemble input.document?) values, by simp only [Trace.outline_append, outlines]⟩

end Dispatcher

end JsonRpc
