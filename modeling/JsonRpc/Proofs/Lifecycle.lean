import Mathlib.Data.List.Forall2
import JsonRpc.Proofs.History

set_option autoImplicit false

namespace JsonRpc

variable {C M H : Type} (depth : Nat)

structure Visit.Describes (visit : Visit C M) (block : Block C) : Prop where
  raw : block.raw = visit.candidate.raw
  opening : block.opening = Context.ofCaller visit.data
  refused : ∀ error, visit.candidate.request = .error error →
    block.method = "" ∧ block.outcome = .error error ∧ block.context = Context.ofCaller visit.data
  accepted : ∀ request, visit.candidate.request = .ok request →
    block.method = request.method ∧ block.context = request.context visit.data
  invoked : ∀ method, block.invoked = some method ↔ ∃ request, visit.candidate.request = .ok request ∧
    visit.registry.contains request.method = true ∧ method = request.method
  unnamed : block.method = "" ↔ ∃ error, visit.candidate.request = .error error
  unknown : ∀ request, visit.candidate.request = .ok request → visit.registry.lookup request.method = none →
    block.outcome = .error .methodNotFound
  unfit : ∀ request method misfit, visit.candidate.request = .ok request →
    visit.registry.lookup request.method = some method →
    method.marshal (request.context visit.data) request.params = .error misfit →
    block.outcome = .error misfit.toRpcError

namespace Dispatcher

def Reports (observer : Option H) (visit : Visit C M) (told : Block C) : Prop :=
  ∃ dispatcher : Dispatcher C M H, dispatcher.registry = visit.registry ∧ dispatcher.observer = observer ∧
    told = block visit.data visit.registry visit.candidate
      (outcome (callback depth) visit.data visit.candidate dispatcher)

theorem reports_describes (observer : Option H) (visit : Visit C M) (told : Block C)
    (reports : Reports depth observer visit told) : visit.Describes told := by
  obtain ⟨dispatcher, registry, _, rfl⟩ := reports
  cases validated : visit.candidate.request with
  | error error => constructor <;> simp [block, outcome, validated]
  | ok request =>
      have named := visit.candidate.accepted_named request validated
      refine ⟨?_, ?_, ?_, ?_, ?_, ?_, ?_, ?_⟩
      · simp [block, validated]
      · simp [block, validated]
      · simp [validated]
      · simp [block, validated]
      · intro method
        simp only [block, validated, announced, Except.ok.injEq, exists_eq_left']
        cases visit.registry.contains request.method <;> simp [eq_comm]
      · simp [block, validated, named]
      · intro other accepted unknown
        rw [← registry] at unknown
        rw [← outcome_unknown (callback depth) visit.data visit.candidate dispatcher other accepted unknown]
        simp [block, validated]
      · intro other method misfit accepted registered unfit
        rw [← registry] at registered
        rw [← outcome_unfit (callback depth) visit.data visit.candidate dispatcher other method misfit accepted
          registered unfit]
        simp [block, validated]

theorem turns_blocks (data : C) (candidates : List Candidate) (dispatcher : Dispatcher C M H)
    (quiet : dispatcher.registry.Quiet) :
    let turns := Run.turns (handle (callback depth) data) candidates dispatcher
    ∃ blocks, Trace.hookCalls (traces turns) = Trace.told dispatcher.observer (blocks.flatMap Block.calls) ∧
      List.Forall₂ (Reports depth dispatcher.observer)
        (candidates.map fun candidate => ⟨data, dispatcher.registry, candidate⟩) blocks := by
  induction candidates generalizing dispatcher with
  | nil => exact ⟨[], (Trace.told_nil dispatcher.observer).symm, .nil⟩
  | cons candidate rest ih =>
      obtain ⟨⟨memory, counted⟩, direct⟩ := handle_quiet (callback depth) data candidate dispatcher quiet
      obtain ⟨blocks, later, reports⟩ := ih { dispatcher.counted with memory } quiet
      have first := handle_block (callback depth) (callback_discreet depth) data candidate dispatcher
      rw [direct] at first
      refine ⟨_ :: blocks, ?_, .cons ⟨dispatcher, rfl, rfl, rfl⟩ reports⟩
      simp only [Run.turns, traces, List.flatMap_cons, Trace.hook_calls_append, first, counted, Trace.told_append]
      exact congrArg _ later

theorem dispatch_blocks (input : Input) (data : C) (dispatcher : Dispatcher C M H)
    (quiet : dispatcher.registry.Quiet) :
    ∃ blocks, Trace.hookCalls (dispatch depth input data dispatcher).trace =
        Trace.told dispatcher.observer (blocks.flatMap Block.calls) ∧
      List.Forall₂ (Reports depth dispatcher.observer)
        (input.candidates.map fun candidate => ⟨data, dispatcher.registry, candidate⟩) blocks := by
  obtain ⟨blocks, calls, reports⟩ := turns_blocks depth data input.candidates dispatcher quiet
  obtain ⟨notices, announced⟩ := announcement_notices (C := C) (H := H) input.document?
  refine ⟨blocks, ?_, reports⟩
  rw [dispatch, dispatch_with_turns]
  simpa [announced] using calls

end Dispatcher

theorem Operation.run_blocks (operation : Operation C M) (dispatcher : Dispatcher C M H)
    (quiet : dispatcher.registry.Quiet) :
    ∃ blocks, Trace.hookCalls (operation.run depth dispatcher).trace =
        Trace.told dispatcher.observer (blocks.flatMap Block.calls) ∧
      List.Forall₂ (Dispatcher.Reports depth dispatcher.observer) (operation.visits dispatcher.registry) blocks := by
  cases operation with
  | dispatch input data => exact Dispatcher.dispatch_blocks depth input data dispatcher quiet
  | register name method => exact ⟨[], (Trace.told_nil dispatcher.observer).symm, .nil⟩

theorem history_blocks (operations : List (Operation C M)) (dispatcher : Dispatcher C M H)
    (quiet : dispatcher.registry.Quiet) (quietOperations : ∀ operation ∈ operations, operation.Quiet) :
    ∃ blocks, Trace.hookCalls (history depth operations dispatcher).trace =
        Trace.told dispatcher.observer (blocks.flatMap Block.calls) ∧
      List.Forall₂ (Dispatcher.Reports depth dispatcher.observer) (visits operations dispatcher.registry) blocks := by
  induction operations generalizing dispatcher with
  | nil => exact ⟨[], (Trace.told_nil dispatcher.observer).symm, .nil⟩
  | cons operation rest ih =>
      obtain ⟨registry, observer⟩ := operation.run_quiet depth dispatcher quiet
      have quietAfter := operation.registry_after_quiet dispatcher.registry (quietOperations operation (by simp)) quiet
      obtain ⟨first, calls, reports⟩ := operation.run_blocks depth dispatcher quiet
      obtain ⟨later, laterCalls, laterReports⟩ := ih (operation.run depth dispatcher).dispatcher (registry ▸ quietAfter)
        fun other member => quietOperations other (by simp [member])
      rw [registry, observer] at laterReports
      refine ⟨first ++ later, ?_, List.rel_append reports laterReports⟩
      simp [history, calls, laterCalls, observer, Trace.told_append]

/-- An observer is told of the candidates of a history one after the other, of each in one block; what is
registered when a candidate comes up decides whether the block tells of a method called. -/
theorem observer_told_in_blocks (operations : List (Operation C M)) (dispatcher : Dispatcher C M H) (observer : H)
    (observed : dispatcher.observer = some observer) (quiet : dispatcher.registry.Quiet)
    (quietOperations : ∀ operation ∈ operations, operation.Quiet) :
    ∃ blocks : List (Block C),
      Trace.hookCalls (history depth operations dispatcher).trace =
        (blocks.flatMap Block.calls).map (fun call => (observer, call)) ∧
      blocks.length = (visits operations dispatcher.registry).length ∧
      List.Forall₂ (Dispatcher.Reports depth (some observer)) (visits operations dispatcher.registry) blocks ∧
      List.Forall₂ Visit.Describes (visits operations dispatcher.registry) blocks := by
  obtain ⟨blocks, calls, reports⟩ := history_blocks depth operations dispatcher quiet quietOperations
  rw [observed] at calls reports
  exact ⟨blocks, calls, reports.length_eq.symm, reports,
    reports.imp fun visit told => Dispatcher.reports_describes depth (some observer) visit told⟩

theorem observer_told_of_late_method :
    let call : Json := .obj [("id", .str "a"), ("jsonrpc", .str "2.0"), ("method", .str "late")]
    let operations : List (Operation Unit Unit) :=
      [.dispatch (.document (.arr [call, .null])) (), .register "late" Dispatcher.echo, .dispatch (.document call) ()]
    ∃ early none later : Block Unit,
      Trace.hookCalls (history 1 operations Dispatcher.echoing).trace =
        ([early, none, later].flatMap Block.calls).map (fun call => ((), call)) ∧
      early.method = "late" ∧ early.invoked = .none ∧ none.method = "" ∧ later.invoked = some "late" := by
  intro call operations
  have quiet : ∀ operation ∈ operations, operation.Quiet := by
    simp [operations, Operation.Quiet, Dispatcher.echo_quiet]
  obtain ⟨blocks, told, _, _, describes⟩ :=
    observer_told_in_blocks 1 operations Dispatcher.echoing () rfl Dispatcher.echoing_quiet quiet
  rcases describes with _ | ⟨first, _ | ⟨second, _ | ⟨third, ⟨⟩⟩⟩⟩
  have unknown : Registry.contains (Dispatcher.echoing.registry) "late" = false := rfl
  have uncalled : ∀ method, _ ≠ some method := fun method same => by
    obtain ⟨_, ⟨⟩, registered, _⟩ := (first.invoked method).mp same
    exact Bool.noConfusion (unknown.symm.trans registered)
  exact ⟨_, _, _, told, (first.accepted _ rfl).1, Option.eq_none_iff_forall_ne_some.mpr uncalled,
    (second.refused _ rfl).1, (third.invoked "late").mpr ⟨_, rfl, rfl, rfl⟩⟩

end JsonRpc
