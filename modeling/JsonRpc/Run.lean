import JsonRpc.Registry
import JsonRpc.Trace

set_option autoImplicit false

namespace JsonRpc

-- `sequence` counts the requests and batch entries seen so far, modulo `2^64`. Without an observer
-- the lifecycle is reported to nobody.
structure Dispatcher (C M H : Type) where
  registry : Registry C M
  observer : Option H
  sequence : UInt64
  memory : M

structure Step (C M H α : Type) where
  value : α
  dispatcher : Dispatcher C M H
  trace : List (Entry C H)

def Run (C M H α : Type) : Type := Dispatcher C M H → Step C M H α

namespace Run

variable {C M H α β : Type}

protected def pure (value : α) : Run C M H α := fun dispatcher => ⟨value, dispatcher, []⟩

protected def bind (first : Run C M H α) (second : α → Run C M H β) : Run C M H β := fun dispatcher =>
  let before := first dispatcher
  let after := second before.value before.dispatcher
  ⟨after.value, after.dispatcher, before.trace ++ after.trace⟩

protected def map (change : α → β) (run : Run C M H α) : Run C M H β := fun dispatcher =>
  let step := run dispatcher
  ⟨change step.value, step.dispatcher, step.trace⟩

instance : Monad (Run C M H) where
  pure := Run.pure
  bind := Run.bind
  map := Run.map

def emit (event : Event C H) : Run C M H Unit := fun dispatcher => ⟨(), dispatcher, [⟨[], event⟩]⟩

def notify (call : HookCall C) : Run C M H Unit := fun dispatcher =>
  match dispatcher.observer with
  | some observer => emit (.hook observer call) dispatcher
  | none => Run.pure () dispatcher

def lookup (name : String) : Run C M H (Option (Method C M)) := fun dispatcher =>
  ⟨dispatcher.registry.lookup name, dispatcher, []⟩

def register (name : String) (method : Method C M) : Run C M H Bool := fun dispatcher =>
  let (added, registry) := dispatcher.registry.register name method
  ⟨added, { dispatcher with registry }, [⟨[], .notice (.ofRegistration name added)⟩]⟩

def remember (update : M → M) : Run C M H M := fun dispatcher =>
  ⟨dispatcher.memory, { dispatcher with memory := update dispatcher.memory }, []⟩

def inSpan (body : Run C M H α) : Run C M H α := fun dispatcher =>
  let inside := body { dispatcher with sequence := dispatcher.sequence + 1 }
  { inside with trace := inside.trace.map (Entry.within dispatcher.sequence) }

def perform (nested : String → C → Run C M H Answer) : Action C M → Run C M H Outcome
  | .finish outcome => pure outcome
  | .log record next => do
      emit (.log record)
      perform nested next
  | .remember update next => do
      let memory ← remember update
      perform nested (next memory)
  | .dispatch text data next => do
      let answer ← nested text data
      perform nested (next answer)
  | .register name method next => do
      let added ← register name method
      perform nested (next added)

end Run

end JsonRpc
