import JsonRpc.Proofs.Passage

set_option autoImplicit false

namespace JsonRpc

variable {C M H : Type} (depth : Nat)

inductive Operation (C M : Type) where
  | dispatch (input : Input) (data : C)
  | register (name : String) (method : Method C M)

inductive Reply where
  | answered (answer : Answer)
  | registered (added : Bool)

namespace Operation

def run : Operation C M → Run C M H Reply
  | .dispatch input data => Run.map .answered (Dispatcher.dispatch depth input data)
  | .register name method => Run.map .registered (Dispatcher.add name method)

def Quiet : Operation C M → Prop
  | .dispatch _ _ => True
  | .register _ method => method.Quiet

def registryAfter (registry : Registry C M) : Operation C M → Registry C M
  | .dispatch _ _ => registry
  | .register name method => (registry.register name method).2

theorem registry_after_quiet (operation : Operation C M) (registry : Registry C M) (quiet : operation.Quiet)
    (quietRegistry : registry.Quiet) : (operation.registryAfter registry).Quiet := by
  cases operation with
  | dispatch input data => exact quietRegistry
  | register name method => exact Registry.quiet_register registry quietRegistry name method quiet

end Operation

def history : List (Operation C M) → Run C M H (List Reply)
  | [] => pure []
  | operation :: rest => do
      let reply ← operation.run depth
      Run.map (reply :: ·) (history rest)

structure Visit (C M : Type) where
  data : C
  registry : Registry C M
  candidate : Candidate

namespace Operation

def visits (registry : Registry C M) : Operation C M → List (Visit C M)
  | .dispatch input data => input.candidates.map fun candidate => ⟨data, registry, candidate⟩
  | .register _ _ => []

end Operation

def visits : List (Operation C M) → Registry C M → List (Visit C M)
  | [], _ => []
  | operation :: rest, registry => operation.visits registry ++ visits rest (operation.registryAfter registry)

namespace Dispatcher

theorem dispatch_quiet (input : Input) (data : C) (dispatcher : Dispatcher C M H) (quiet : dispatcher.registry.Quiet) :
    ∃ memory, (dispatch depth input data dispatcher).dispatcher =
      { dispatcher with sequence := dispatcher.sequence + .ofNat input.candidates.length, memory } := by
  rw [dispatch, dispatch_with_turns]
  exact turns_quiet (callback depth) data input.candidates dispatcher quiet

end Dispatcher

theorem Operation.run_quiet (operation : Operation C M) (dispatcher : Dispatcher C M H)
    (quiet : dispatcher.registry.Quiet) :
    (operation.run depth dispatcher).dispatcher.registry = operation.registryAfter dispatcher.registry ∧
      (operation.run depth dispatcher).dispatcher.observer = dispatcher.observer := by
  cases operation with
  | dispatch input data =>
      obtain ⟨memory, counted⟩ := Dispatcher.dispatch_quiet depth input data dispatcher quiet
      simp [run, registryAfter, counted]
  | register name method => exact ⟨rfl, rfl⟩

end JsonRpc
