import JsonRpc.Builder
import JsonRpc.Proofs.Counting

set_option autoImplicit false

namespace JsonRpc

variable {C M H : Type} (depth : Nat)

theorem Operation.run_loyal (operation : Operation C M) :
    (operation.run depth : Run C M H Reply).KeepsObserver ∧ (operation.run depth : Run C M H Reply).Loyal := by
  have discreet : Discreet (Dispatcher.callback depth : String → C → Run C M H Answer) :=
    Dispatcher.callback_discreet depth
  cases operation with
  | dispatch input data =>
      exact ⟨(Dispatcher.dispatch_with_discreet _ discreet.observer input data).1,
        Dispatcher.dispatch_with_loyal _ discreet input data⟩
  | register name method => exact ⟨fun _ => rfl, fun dispatcher => Trace.told_to_notices dispatcher.observer [_]⟩

theorem history_loyal depth (operations : List (Operation C M)) :
    (history depth operations : Run C M H (List Reply)).KeepsObserver ∧
      (history depth operations : Run C M H (List Reply)).Loyal := by
  induction operations with
  | nil => exact ⟨fun _ => rfl, fun dispatcher => Trace.told_to_nil dispatcher.observer⟩
  | cons operation rest ih =>
      obtain ⟨kept, loyal⟩ := operation.run_loyal depth (H := H)
      constructor <;> intro dispatcher
      · exact (ih.1 (operation.run depth dispatcher).dispatcher).trans (kept dispatcher)
      · have later := ih.2 (operation.run depth dispatcher).dispatcher
        rw [kept dispatcher] at later
        exact (Trace.told_to_append dispatcher.observer _ _).mpr ⟨loyal dispatcher, later⟩

theorem session_loyal (acts : List (Act C M)) : (session depth acts : Run C M H (List Act.Result)).Loyal := by
  intro dispatcher
  rw [(session_history depth acts dispatcher).2]
  exact (history_loyal depth (operations acts)).2 dispatcher

namespace Builder

inductive Call (C M H : Type) where
  | method (name : String) (handler : Method C M)
  | hooks (observer : Option H)

namespace Call

def run (builder : Builder C M H) : Call C M H → Builder C M H
  | .method name handler => builder.method name handler
  | .hooks observer => builder.hooks observer

def registration? : Call C M H → Option (Operation C M)
  | .method name handler => some (.register name handler)
  | .hooks _ => none

def hooks? : Call C M H → Option (Option H)
  | .method _ _ => none
  | .hooks observer => some observer

end Call

def ofCalls (calls : List (Call C M H)) : Builder C M H := calls.foldl Call.run start

def registrations (calls : List (Call C M H)) : List (Operation C M) := calls.filterMap Call.registration?

def lastHooks (calls : List (Call C M H)) : Option H := (calls.filterMap Call.hooks?).getLastD none

theorem calls_registered (calls : List (Call C M H)) (builder : Builder C M H) (memory : M) :
    let built := calls.foldl Call.run builder
    let registered := history depth (registrations calls)
      { builder.build memory with observer := (calls.filterMap Call.hooks?).getLastD builder.observer }
    built.build memory = registered.dispatcher ∧
      (Trace.ofNotices built.notices : List (Entry C H)) = Trace.ofNotices builder.notices ++ registered.trace := by
  induction calls generalizing builder with
  | nil => exact ⟨rfl, (List.append_nil _).symm⟩
  | cons call rest ih =>
      cases call with
      | method name handler =>
          obtain ⟨built, notices⟩ := ih (builder.method name handler)
          have noticed : (Trace.ofNotices (builder.method name handler).notices : List (Entry C H)) =
              Trace.ofNotices builder.notices ++ (Dispatcher.add name handler (builder.build memory)).trace :=
            List.map_append
          refine ⟨built, notices.trans ?_⟩
          rw [noticed, List.append_assoc]
          rfl
      | hooks observer =>
          have last : ((Call.hooks observer :: rest).filterMap Call.hooks?).getLastD builder.observer =
              (rest.filterMap Call.hooks?).getLastD observer := List.getLastD_cons ..
          rw [last]
          exact ih (builder.hooks observer)

theorem methods_lookup (entries : List (String × Method C M)) (builder : Builder C M H) (name : String) :
    (entries.foldl (fun builder (name, method) => builder.method name method) builder).registry.lookup name =
      (builder.registry.lookup name).or (entries.lookup name) := by
  induction entries generalizing builder with
  | nil => simp
  | cons entry rest ih =>
      obtain ⟨first, method⟩ := entry
      have registered : (builder.method first method).registry = (builder.registry.register first method).2 := rfl
      rw [List.foldl_cons, ih, registered, Registry.lookup_register, Option.or_assoc]
      by_cases same : name = first
      · simp [same]
      · simp [same, lookup_past]

/-- A dispatcher that is built behaves, whatever is then done with it, like one made with the observer named
last on which the methods were registered in the same order; and registering them is logged alike. No observer
but the last one is ever told anything. -/
theorem built_like_registered (calls : List (Call C M H)) (memory : M) (acts : List (Act C M)) :
    let built := (ofCalls calls).build memory
    let registered := history depth (registrations calls) (Dispatcher.create (lastHooks calls) memory)
    session depth acts built = session depth acts registered.dispatcher ∧
      Trace.ofNotices (ofCalls calls).notices = registered.trace ∧
      ∀ told ∈ Trace.hookCalls (session depth acts built).trace, lastHooks calls = some told.1 := by
  intro built registered
  obtain ⟨same, notices⟩ := calls_registered depth calls start memory
  have observer : built.observer = lastHooks calls :=
    (congrArg Dispatcher.observer same).trans ((history_loyal depth (registrations calls)).1 _)
  refine ⟨congrArg (session depth acts) same, notices, ?_⟩
  rw [← observer]
  exact session_loyal depth acts built

end Builder

end JsonRpc
