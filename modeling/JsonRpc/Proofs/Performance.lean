import JsonRpc.Proofs.Run

set_option autoImplicit false

namespace JsonRpc

variable {C M H : Type}

inductive Action.Performs (nested : String → C → Run C M H Answer) :
    Action C M → Dispatcher C M H → Step C M H Outcome → Prop
  | finish (outcome : Outcome) (start : Dispatcher C M H) : Performs nested (.finish outcome) start ⟨outcome, start, []⟩
  | log (record : Log.Record) (next : Action C M) (start : Dispatcher C M H) (rest : Step C M H Outcome)
      (later : Performs nested next start rest) :
      Performs nested (.log record next) start { rest with trace := ⟨[], .log record⟩ :: rest.trace }
  | remember (update : M → M) (next : M → Action C M) (start : Dispatcher C M H) (rest : Step C M H Outcome)
      (later : Performs nested (next start.memory) { start with memory := update start.memory } rest) :
      Performs nested (.remember update next) start rest
  | dispatch (text : String) (data : C) (next : Answer → Action C M) (start : Dispatcher C M H)
      (answered : Step C M H Answer) (rest : Step C M H Outcome) (inner : nested text data start = answered)
      (later : Performs nested (next answered.value) answered.dispatcher rest) :
      Performs nested (.dispatch text data next) start { rest with trace := answered.trace ++ rest.trace }
  | register (name : String) (method : Method C M) (next : Bool → Action C M) (start : Dispatcher C M H)
      (added : Bool) (registry : Registry C M) (rest : Step C M H Outcome)
      (registered : start.registry.register name method = (added, registry))
      (later : Performs nested (next added) { start with registry } rest) :
      Performs nested (.register name method next) start
        { rest with trace := ⟨[], .notice (if added then .registered name else .duplicate name)⟩ :: rest.trace }

namespace Action

variable (nested : String → C → Run C M H Answer)

theorem performs_perform (action : Action C M) (start : Dispatcher C M H) :
    action.Performs nested start (Run.perform nested action start) := by
  cases action with
  | finish outcome => exact .finish outcome start
  | log record next => exact .log record next start _ (performs_perform next start)
  | remember update next => exact .remember update next start _ (performs_perform (next start.memory) _)
  | dispatch text data next => exact .dispatch text data next start _ _ rfl (performs_perform (next _) _)
  | register name method next => exact .register name method next start _ _ _ rfl (performs_perform (next _) _)

theorem performs_unique (action : Action C M) (start : Dispatcher C M H) (step : Step C M H Outcome)
    (performs : action.Performs nested start step) : step = Run.perform nested action start := by
  induction performs with
  | finish outcome start => rfl
  | log record next start rest later ih => rw [ih]; rfl
  | remember update next start rest later ih => exact ih
  | dispatch text data next start answered rest inner later ih => rw [ih, ← inner]; rfl
  | register name method next start added registry rest registered later ih =>
      have performed : Run.perform nested (.register name method next) start =
          { Run.perform nested (next added) { start with registry } with
            trace := ⟨[], .notice (.ofRegistration name added)⟩ ::
              (Run.perform nested (next added) { start with registry }).trace } := by
        simp only [Run.perform, Run.bind_apply, Run.register, registered]
        rfl
      rw [performed, ih]
      rfl

theorem performs_iff (action : Action C M) (start : Dispatcher C M H) (step : Step C M H Outcome) :
    action.Performs nested start step ↔ step = Run.perform nested action start :=
  ⟨performs_unique nested action start step, fun same => same ▸ performs_perform nested action start⟩

end Action

end JsonRpc
