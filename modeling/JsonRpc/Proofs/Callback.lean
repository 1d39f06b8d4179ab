import JsonRpc.Proofs.Handling

set_option autoImplicit false

namespace JsonRpc

variable {C M H α : Type}

def Run.KeepsObserver (run : Run C M H α) : Prop :=
  ∀ dispatcher, (run dispatcher).dispatcher.observer = dispatcher.observer

def Run.Hidden (run : Run C M H α) : Prop := ∀ dispatcher, Trace.Sheltered (run dispatcher).trace

def Trace.ToldTo (observer : Option H) (trace : List (Entry C H)) : Prop :=
  ∀ told ∈ hookCalls trace, observer = some told.1

def Run.Loyal (run : Run C M H α) : Prop := ∀ dispatcher, Trace.ToldTo dispatcher.observer (run dispatcher).trace

structure Discreet (nested : String → C → Run C M H Answer) : Prop where
  observer : ∀ text data, (nested text data).KeepsObserver
  hidden : ∀ text data, (nested text data).Hidden
  loyal : ∀ text data, (nested text data).Loyal

namespace Trace

@[simp] theorem told_to_nil (observer : Option H) : ToldTo observer ([] : List (Entry C H)) := by
  simp [ToldTo]

@[simp] theorem told_to_append (observer : Option H) (first second : List (Entry C H)) :
    ToldTo observer (first ++ second) ↔ ToldTo observer first ∧ ToldTo observer second := by
  simp only [ToldTo, hook_calls_append, List.mem_append, or_imp, forall_and]

@[simp] theorem told_to_within (observer : Option H) (sequence : UInt64) (trace : List (Entry C H)) :
    ToldTo observer (trace.map (Entry.within sequence)) ↔ ToldTo observer trace := by
  simp [ToldTo]

@[simp] theorem told_to_report (dispatcher : Dispatcher C M H) (call : HookCall C) :
    ToldTo dispatcher.observer (dispatcher.report call) := by
  cases present : dispatcher.observer <;> simp [ToldTo, present, Trace.told]

@[simp] theorem told_to_notices (observer : Option H) (notices : List Notice) :
    ToldTo observer (ofNotices notices : List (Entry C H)) := by
  simp [ToldTo]

@[simp] theorem told_to_entered (observer : Option H) (method : String) (context : Option (Context C))
    (arguments : List Json) (rest : List (Entry C H)) :
    ToldTo observer (⟨[], .entered method context arguments⟩ :: rest) ↔ ToldTo observer rest := by
  simp [ToldTo]

end Trace

namespace Run

variable (nested : String → C → Run C M H Answer)

theorem perform_observer (kept : ∀ text data, (nested text data).KeepsObserver) (action : Action C M) :
    (perform nested action).KeepsObserver := by
  intro dispatcher
  cases action with
  | finish outcome => rfl
  | log record next => exact perform_observer kept next _
  | remember update next => exact perform_observer kept (next dispatcher.memory) _
  | dispatch text data next =>
      have inner := kept text data dispatcher
      exact (perform_observer kept (next (nested text data dispatcher).value) _).trans inner
  | register name method next =>
      exact perform_observer kept (next (dispatcher.registry.register name method).1) _

theorem sheltered_event (event : Event C H) (rest : List (Entry C H)) (noCall : Entry.hookCall? ⟨[], event⟩ = none)
    (noBody : Entry.body? ⟨[], event⟩ = none) (sheltered : Trace.Sheltered rest) :
    Trace.Sheltered (⟨[], event⟩ :: rest) := by
  obtain ⟨calls, bodies⟩ := sheltered
  constructor
  · simpa [Trace.hookCalls, noCall] using calls
  · simpa [Trace.bodies, noBody] using bodies

theorem perform_hidden (hidden : ∀ text data, (nested text data).Hidden) (action : Action C M) :
    (perform nested action).Hidden := by
  intro dispatcher
  cases action with
  | finish outcome => exact ⟨rfl, rfl⟩
  | log record next => exact sheltered_event _ _ rfl rfl (perform_hidden hidden next dispatcher)
  | remember update next => exact perform_hidden hidden (next dispatcher.memory) _
  | dispatch text data next =>
      have inner := hidden text data dispatcher
      exact Trace.sheltered_append _ _ inner (perform_hidden hidden (next (nested text data dispatcher).value) _)
  | register name method next =>
      exact sheltered_event _ _ rfl rfl
        (perform_hidden hidden (next (dispatcher.registry.register name method).1) _)

theorem perform_loyal (discreet : Discreet nested) (action : Action C M) : (perform nested action).Loyal := by
  intro dispatcher
  cases action with
  | finish outcome => exact Trace.told_to_nil dispatcher.observer
  | log record next => exact perform_loyal discreet next dispatcher
  | remember update next => exact perform_loyal discreet (next dispatcher.memory) _
  | dispatch text data next =>
      have inner := discreet.loyal text data dispatcher
      have rest := perform_loyal discreet (next (nested text data dispatcher).value)
        (nested text data dispatcher).dispatcher
      rw [discreet.observer text data dispatcher] at rest
      exact (Trace.told_to_append dispatcher.observer _ _).mpr ⟨inner, rest⟩
  | register name method next => exact perform_loyal discreet (next (dispatcher.registry.register name method).1) _

end Run

namespace Dispatcher

variable (nested : String → C → Run C M H Answer)

theorem invoke_observer (kept : ∀ text data, (nested text data).KeepsObserver) (request : Request)
    (context : Context C) : (invoke nested request context).KeepsObserver := by
  intro dispatcher
  apply invoke_cases nested dispatcher request context fun step => step.dispatcher.observer = dispatcher.observer
  · intro _
    rfl
  · intro _ _ _ _
    rfl
  · intro _ _ action _ _
    exact Run.perform_observer nested kept action dispatcher

theorem handle_observer (kept : ∀ text data, (nested text data).KeepsObserver) (data : C) (candidate : Candidate) :
    (handle nested data candidate).KeepsObserver := by
  intro dispatcher
  cases validated : candidate.request with
  | error error => rw [handle_refused nested dispatcher data candidate error validated]; rfl
  | ok request =>
      rw [handle_accepted nested dispatcher data candidate request validated]
      exact invoke_observer nested kept request _ dispatcher.counted

theorem invoke_loyal (discreet : Discreet nested) (request : Request) (context : Context C) :
    (invoke nested request context).Loyal := by
  intro dispatcher
  apply invoke_cases nested dispatcher request context fun step => Trace.ToldTo dispatcher.observer step.trace
  · intro _
    exact Trace.told_to_nil dispatcher.observer
  · intro _ _ _ _
    exact Trace.told_to_report dispatcher _
  · intro _ _ action _ _
    simpa using Run.perform_loyal nested discreet action dispatcher

theorem handle_loyal (discreet : Discreet nested) (data : C) (candidate : Candidate) :
    (handle nested data candidate).Loyal := by
  intro dispatcher
  cases validated : candidate.request with
  | error error =>
      rw [handle_refused nested dispatcher data candidate error validated]
      simp
  | ok request =>
      rw [handle_accepted nested dispatcher data candidate request validated]
      have inner := invoke_loyal nested discreet request (request.context data) dispatcher.counted
      have after := Trace.told_to_report (invoke nested request (request.context data) dispatcher.counted).dispatcher
      rw [invoke_observer nested discreet.observer request (request.context data) dispatcher.counted] at after
      simpa using And.intro inner (after _)

theorem turns_observer (kept : ∀ text data, (nested text data).KeepsObserver) (data : C)
    (candidates : List Candidate) (dispatcher : Dispatcher C M H) :
    let turns := Run.turns (handle nested data) candidates dispatcher
    (∀ turn ∈ turns, turn.start.observer = dispatcher.observer) ∧
      (Turn.last turns dispatcher).observer = dispatcher.observer :=
  Run.turns_invariant (handle nested data) (fun current => current.observer = dispatcher.observer) candidates dispatcher
    (fun candidate _ current same => (handle_observer nested kept data candidate current).trans same) rfl

theorem turns_sheltered (data : C) (candidates : List Candidate) (dispatcher : Dispatcher C M H) :
    Trace.Sheltered (traces (Run.turns (handle nested data) candidates dispatcher)) := by
  induction candidates generalizing dispatcher with
  | nil => exact ⟨rfl, rfl⟩
  | cons candidate rest ih =>
      exact Trace.sheltered_append _ _ (Trace.sheltered_within dispatcher.sequence _) (ih _)

theorem turns_loyal (discreet : Discreet nested) (data : C) (candidates : List Candidate)
    (dispatcher : Dispatcher C M H) :
    Trace.ToldTo dispatcher.observer (traces (Run.turns (handle nested data) candidates dispatcher)) := by
  induction candidates generalizing dispatcher with
  | nil => exact Trace.told_to_nil dispatcher.observer
  | cons candidate rest ih =>
      have first := handle_loyal nested discreet data candidate dispatcher
      have later := ih (handle nested data candidate dispatcher).dispatcher
      rw [handle_observer nested discreet.observer data candidate dispatcher] at later
      exact (Trace.told_to_append dispatcher.observer _ _).mpr ⟨first, later⟩

theorem dispatch_with_discreet (kept : ∀ text data, (nested text data).KeepsObserver) (input : Input) (data : C) :
    (dispatchWith nested input data).KeepsObserver ∧ (dispatchWith nested input data).Hidden := by
  constructor <;> intro dispatcher <;> rw [dispatch_with_turns]
  · exact (turns_observer nested kept data input.candidates dispatcher).2
  · obtain ⟨notices, announced⟩ := announcement_notices (C := C) (H := H) input.document?
    rw [announced]
    exact Trace.sheltered_append _ _ (Trace.sheltered_notices notices)
      (turns_sheltered nested data input.candidates dispatcher)

theorem dispatch_with_loyal (discreet : Discreet nested) (input : Input) (data : C) :
    (dispatchWith nested input data).Loyal := by
  intro dispatcher
  rw [dispatch_with_turns]
  obtain ⟨notices, announced⟩ := announcement_notices (C := C) (H := H) input.document?
  simpa [announced] using turns_loyal nested discreet data input.candidates dispatcher

theorem callback_discreet (depth : Nat) : Discreet (callback depth : String → C → Run C M H Answer) := by
  -- Handlers at one depth dispatch at the depth below.
  induction depth with
  | zero =>
      exact ⟨fun _ _ _ => rfl, fun _ _ _ => ⟨rfl, rfl⟩,
        fun _ _ dispatcher => Trace.told_to_nil dispatcher.observer⟩
  | succ depth ih =>
      have kept := ih.observer
      exact ⟨fun text data => (dispatch_with_discreet (callback depth) kept (.text text) data).1,
        fun text data => (dispatch_with_discreet (callback depth) kept (.text text) data).2,
        fun text data => dispatch_with_loyal (callback depth) ih (.text text) data⟩

end Dispatcher

end JsonRpc
