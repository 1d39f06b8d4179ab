import JsonRpc.Proofs.Callback
import JsonRpc.Proofs.Marshaling
import JsonRpc.Proofs.Registration

set_option autoImplicit false

namespace JsonRpc

variable {C M H : Type}

def Action.Quiet : Action C M → Prop
  | .finish _ => True
  | .log _ next => next.Quiet
  | .remember _ next => ∀ memory, (next memory).Quiet
  | .dispatch _ _ _ => False
  | .register _ _ _ => False

def Method.Quiet (method : Method C M) : Prop :=
  ∀ context arguments action, method.start context arguments = .ok action → action.Quiet

def Registry.Quiet (registry : Registry C M) : Prop :=
  ∀ name method, registry.lookup name = some method → method.Quiet

theorem Method.quiet_marshal (method : Method C M) (quiet : method.Quiet) (context : Context C) (params : List Json)
    (arguments : Arguments) (action : Action C M) (fits : method.marshal context params = .ok (arguments, action)) :
    action.Quiet :=
  quiet context arguments action (method.marshal_start context params arguments action fits).2

theorem Method.plain_quiet (types : List ParamType) (body : ParamType.Tuple types → Action C M)
    (quiet : ∀ values, (body values).Quiet) : (Method.plain types body).Quiet := by
  intro context arguments action started
  obtain ⟨values, rfl⟩ := plain_started types body context arguments action started
  exact quiet values

theorem Method.with_context_quiet (types : List ParamType) (body : Context C → ParamType.Tuple types → Action C M)
    (quiet : ∀ context values, (body context values).Quiet) : (Method.withContext types body).Quiet := by
  intro context arguments action started
  cases taken : arguments.take types with
  | error misfit => simp [withContext, taken, Except.map] at started
  | ok values =>
      have same : body context values = action := by simpa [withContext, taken, Except.map] using started
      exact same ▸ quiet context values

theorem Registry.quiet_empty : (Registry.empty : Registry C M).Quiet := by
  intro name method registered
  simp [lookup, empty] at registered

theorem Registry.quiet_register (registry : Registry C M) (quiet : registry.Quiet) (name : String) (method : Method C M)
    (quietMethod : method.Quiet) : (registry.register name method).2.Quiet := by
  intro other found registered
  rcases registry.registered_from name other method found registered with known | same
  · exact quiet other found known
  · exact same ▸ quietMethod

structure Step.Calm {α : Type} (step : Step C M H α) (dispatcher : Dispatcher C M H) : Prop where
  remembers : ∃ memory, step.dispatcher = { dispatcher with memory }
  direct : Trace.atDepth 0 step.trace = step.trace

theorem Run.perform_calm (nested : String → C → Run C M H Answer) (action : Action C M) (quiet : action.Quiet)
    (dispatcher : Dispatcher C M H) : (perform nested action dispatcher).Calm dispatcher := by
  cases action with
  | finish outcome => exact ⟨⟨dispatcher.memory, rfl⟩, rfl⟩
  | log record next =>
      obtain ⟨remembers, direct⟩ := perform_calm nested next quiet dispatcher
      refine ⟨remembers, ?_⟩
      simpa [perform] using direct
  | remember update next =>
      obtain ⟨⟨memory, remembered⟩, direct⟩ :=
        perform_calm nested (next dispatcher.memory) (quiet dispatcher.memory)
          { dispatcher with memory := update dispatcher.memory }
      exact ⟨⟨memory, remembered⟩, direct⟩
  | dispatch text data next => exact False.elim quiet
  | register name method next => exact False.elim quiet

theorem Run.perform_any_nested (nested other : String → C → Run C M H Answer) (action : Action C M)
    (quiet : action.Quiet) (dispatcher : Dispatcher C M H) :
    perform nested action dispatcher = perform other action dispatcher := by
  cases action with
  | finish outcome => rfl
  | log record next =>
      have later := perform_any_nested nested other next quiet dispatcher
      simp only [perform, bind_apply, emit_apply, later]
  | remember update next =>
      exact perform_any_nested nested other (next dispatcher.memory) (quiet dispatcher.memory)
        { dispatcher with memory := update dispatcher.memory }
  | dispatch text data next => exact False.elim quiet
  | register name method next => exact False.elim quiet

namespace Dispatcher

variable (nested : String → C → Run C M H Answer)

theorem invoke_calm (request : Request) (context : Context C) (dispatcher : Dispatcher C M H)
    (quiet : dispatcher.registry.Quiet) : (invoke nested request context dispatcher).Calm dispatcher := by
  apply invoke_cases nested dispatcher request context fun step => step.Calm dispatcher
  · intro _
    exact ⟨⟨dispatcher.memory, rfl⟩, rfl⟩
  · intro _ _ _ _
    exact ⟨⟨dispatcher.memory, rfl⟩, Trace.at_depth_report dispatcher _⟩
  · intro method arguments action registered fits
    have quietAction := method.quiet_marshal (quiet _ _ registered) context request.params arguments action fits
    obtain ⟨remembers, direct⟩ := Run.perform_calm nested action quietAction dispatcher
    exact ⟨remembers, by simp [direct]⟩

theorem handle_quiet (data : C) (candidate : Candidate) (dispatcher : Dispatcher C M H)
    (quiet : dispatcher.registry.Quiet) :
    (∃ memory, (handle nested data candidate dispatcher).dispatcher = { dispatcher.counted with memory }) ∧
      Trace.atDepth 1 (handle nested data candidate dispatcher).trace =
        (handle nested data candidate dispatcher).trace := by
  cases validated : candidate.request with
  | error error =>
      rw [handle_refused nested dispatcher data candidate error validated]
      exact ⟨⟨dispatcher.memory, rfl⟩, by simp⟩
  | ok request =>
      rw [handle_accepted nested dispatcher data candidate request validated]
      obtain ⟨remembers, direct⟩ := invoke_calm nested request (request.context data) dispatcher.counted quiet
      exact ⟨remembers, by simp [direct]⟩

theorem turns_quiet (data : C) (candidates : List Candidate) (dispatcher : Dispatcher C M H)
    (quiet : dispatcher.registry.Quiet) :
    let turns := Run.turns (handle nested data) candidates dispatcher
    ∃ memory, Turn.last turns dispatcher =
      { dispatcher with sequence := dispatcher.sequence + .ofNat candidates.length, memory } := by
  induction candidates generalizing dispatcher with
  | nil => exact ⟨dispatcher.memory, by simp [Run.turns, Turn.last]⟩
  | cons candidate rest ih =>
      obtain ⟨memory, counted⟩ := (handle_quiet nested data candidate dispatcher quiet).1
      obtain ⟨final, rested⟩ := ih { dispatcher.counted with memory } quiet
      -- Counting one and then the rest is counting all of them, also where the counter wraps around.
      have grown : dispatcher.sequence + 1 + UInt64.ofNat rest.length =
          dispatcher.sequence + UInt64.ofNat (rest.length + 1) := by
        rw [UInt64.ofNat_add, UInt64.add_assoc, UInt64.add_comm 1]
        rfl
      refine ⟨final, ?_⟩
      simp only [Run.turns, Turn.last, List.foldl_cons, counted, List.length_cons, ← grown]
      exact rested

theorem turns_registry (data : C) (candidates : List Candidate) (dispatcher : Dispatcher C M H)
    (quiet : dispatcher.registry.Quiet) :
    ∀ turn ∈ Run.turns (handle nested data) candidates dispatcher, turn.start.registry = dispatcher.registry := by
  refine (Run.turns_invariant (handle nested data) (fun current => current.registry = dispatcher.registry) candidates
    dispatcher ?_ rfl).1
  intro candidate _ current same
  obtain ⟨memory, counted⟩ := (handle_quiet nested data candidate current (same ▸ quiet)).1
  rw [counted]
  exact same

theorem handle_any_nested (other : String → C → Run C M H Answer) (data : C) (candidate : Candidate)
    (dispatcher : Dispatcher C M H) (quiet : dispatcher.registry.Quiet) :
    handle nested data candidate dispatcher = handle other data candidate dispatcher := by
  cases validated : candidate.request with
  | error error =>
      rw [handle_refused nested dispatcher data candidate error validated,
        handle_refused other dispatcher data candidate error validated]
  | ok request =>
      have same : invoke nested request (request.context data) dispatcher.counted =
          invoke other request (request.context data) dispatcher.counted := by
        apply invoke_cases nested dispatcher.counted request (request.context data) fun step =>
          step = invoke other request (request.context data) dispatcher.counted
        · intro unknown
          exact (invoke_unknown other dispatcher.counted request _ unknown).symm
        · intro method misfit registered unfit
          exact (invoke_misfit other dispatcher.counted request _ method misfit registered unfit).symm
        · intro method arguments action registered fits
          have quietAction := method.quiet_marshal (quiet _ _ registered) _ request.params arguments action fits
          rw [invoke_runs other dispatcher.counted request _ method arguments action registered fits,
            Run.perform_any_nested nested other action quietAction]
      rw [handle_accepted nested dispatcher data candidate request validated,
        handle_accepted other dispatcher data candidate request validated]
      simp only [same]

theorem turns_any_nested (other : String → C → Run C M H Answer) (data : C) (candidates : List Candidate)
    (dispatcher : Dispatcher C M H) (quiet : dispatcher.registry.Quiet) :
    Run.turns (handle nested data) candidates dispatcher = Run.turns (handle other data) candidates dispatcher := by
  induction candidates generalizing dispatcher with
  | nil => simp only [Run.turns]
  | cons candidate rest ih =>
      have still : (handle other data candidate dispatcher).dispatcher.registry.Quiet := by
        obtain ⟨memory, counted⟩ := (handle_quiet other data candidate dispatcher quiet).1
        rw [counted]
        exact quiet
      have later := ih (handle other data candidate dispatcher).dispatcher still
      rw [Run.turns, Run.turns, handle_any_nested nested other data candidate dispatcher quiet, later]

-- Where no handler calls back, the depth of callbacks makes no difference.
theorem dispatch_any_depth (depth other : Nat) (input : Input) (data : C) (dispatcher : Dispatcher C M H)
    (quiet : dispatcher.registry.Quiet) :
    dispatch depth input data dispatcher = dispatch other input data dispatcher := by
  unfold dispatch
  rw [dispatch_with_turns, dispatch_with_turns, turns_any_nested (callback depth) (callback other) data _ _ quiet]

def echo : Method Unit Unit := .plain [.json] fun (params, ()) => .succeed params

theorem echo_quiet : echo.Quiet := Method.plain_quiet _ _ fun _ => trivial

def echoing : Dispatcher Unit Unit Unit := (add "echo" echo (create (some ()) ())).dispatcher

theorem echoing_quiet : echoing.registry.Quiet :=
  Registry.quiet_register Registry.empty Registry.quiet_empty "echo" echo echo_quiet

end Dispatcher

end JsonRpc
