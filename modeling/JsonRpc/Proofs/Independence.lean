import JsonRpc.Proofs.Agreement
import JsonRpc.Proofs.MemberOrder

set_option autoImplicit false

namespace JsonRpc

variable {C M H : Type} (depth : Nat)

namespace Operation

def Functional : Operation C M → Prop
  | .dispatch _ _ => True
  | .register _ method => method.Functional

def registration? : Operation C M → Option (String × Method C M)
  | .dispatch _ _ => none
  | .register name method => some (name, method)

theorem lookup_after (operation : Operation C M) (registry : Registry C M) (name : String) :
    (operation.registryAfter registry).lookup name =
      (registry.lookup name).or (operation.registration?.toList.lookup name) := by
  cases operation with
  | dispatch input data => simp [registryAfter, registration?]
  | register other method =>
      rw [registryAfter, registry.lookup_register]
      by_cases same : name = other
      · simp [registration?, same]
      · simp [registration?, lookup_past, same]

theorem functional_after (operation : Operation C M) (registry : Registry C M) (functional : operation.Functional)
    (functionalRegistry : registry.Functional) : (operation.registryAfter registry).Functional := by
  cases operation with
  | dispatch input data => exact functionalRegistry
  | register name method => exact registry.functional_register functionalRegistry name method functional

end Operation

def registrations (operations : List (Operation C M)) : List (String × Method C M) :=
  operations.filterMap Operation.registration?

def registering (entries : List (String × Method C M)) : List (Operation C M) :=
  entries.map fun entry => .register entry.1 entry.2

theorem registrations_registering (entries : List (String × Method C M)) :
    registrations (registering entries) = entries := by
  simp [registrations, registering, Operation.registration?, Function.comp_def]

def firstRegistrations (entries : List (String × Method C M)) (names : List String) : List (String × Method C M) :=
  names.filterMap fun name => (entries.lookup name).map fun method => (name, method)

theorem mem_first_registrations (entries : List (String × Method C M)) (names : List String) (name : String)
    (method : Method C M) :
    (name, method) ∈ firstRegistrations entries names ↔ name ∈ names ∧ entries.lookup name = some method :=
  mem_lookups names entries name method

theorem lookup_chosen (entries chosen : List (String × Method C M)) (names : List String)
    (same : ∀ entry, entry ∈ chosen ↔ entry ∈ firstRegistrations entries names) (name : String)
    (named : name ∈ names) : chosen.lookup name = entries.lookup name := by
  have fromAll (method : Method C M) (found : chosen.lookup name = some method) : entries.lookup name = some method :=
    ((mem_first_registrations entries names name method).mp ((same _).mp (mem_of_lookup chosen name method found))).2
  cases found : chosen.lookup name with
  | some method => exact (fromAll method found).symm
  | none =>
      cases registered : entries.lookup name with
      | none => rfl
      | some method =>
          have taken := (same _).mpr ((mem_first_registrations entries names name method).mpr ⟨named, registered⟩)
          have absent := (Registry.lookup_none_iff chosen name).mp found
          exact absurd (List.mem_map_of_mem taken) absent

theorem history_after (operations : List (Operation C M)) (dispatcher : Dispatcher C M H)
    (functional : dispatcher.registry.Functional)
    (functionalOperations : ∀ operation ∈ operations, operation.Functional) :
    let after := (history depth operations dispatcher).dispatcher
    after.registry.Functional ∧ after.observer = dispatcher.observer ∧
      ∀ name, after.registry.lookup name =
        (dispatcher.registry.lookup name).or ((registrations operations).lookup name) := by
  induction operations generalizing dispatcher with
  | nil => exact ⟨functional, rfl, fun name => by simp [history, registrations]⟩
  | cons operation rest ih =>
      obtain ⟨registry, observer⟩ :=
        operation.run_quiet depth dispatcher (dispatcher.registry.functional_quiet functional)
      have functionalAfter :=
        operation.functional_after dispatcher.registry (functionalOperations operation (by simp)) functional
      obtain ⟨final, observed, found⟩ := ih (operation.run depth dispatcher).dispatcher (registry ▸ functionalAfter)
        fun other member => functionalOperations other (by simp [member])
      refine ⟨final, observed.trans observer, fun name => ?_⟩
      have split : registrations (operation :: rest) = operation.registration?.toList ++ registrations rest := by
        cases operation <;> rfl
      rw [split, List.lookup_append, ← Option.or_assoc, ← operation.lookup_after, ← registry]
      exact found name

theorem registrations_functional (operations : List (Operation C M))
    (functional : ∀ operation ∈ operations, operation.Functional) (name : String) (method : Method C M)
    (registered : (name, method) ∈ registrations operations) : method.Functional := by
  obtain ⟨operation, member, same⟩ := List.mem_filterMap.mp registered
  cases operation with
  | dispatch input data => cases same
  | register other found =>
      cases same
      exact functional _ member

theorem chosen_functional (operations : List (Operation C M))
    (functional : ∀ operation ∈ operations, operation.Functional) (names : List String)
    (chosen : List (String × Method C M))
    (same : ∀ entry, entry ∈ chosen ↔ entry ∈ firstRegistrations (registrations operations) names) :
    ∀ operation ∈ registering chosen, operation.Functional := by
  intro operation member
  obtain ⟨⟨name, method⟩, taken, rfl⟩ := List.mem_map.mp member
  have first := ((mem_first_registrations (registrations operations) names name method).mp ((same _).mp taken)).2
  exact registrations_functional operations functional name method (mem_of_lookup _ name method first)

namespace Dispatcher

theorem agree_dispatch (earlier : Input) (data : C) (dispatcher : Dispatcher C M H)
    (functional : dispatcher.registry.Functional) (names : List String) :
    Agree names dispatcher (dispatch depth earlier data dispatcher).dispatcher := by
  obtain ⟨memory, counted⟩ :=
    dispatch_quiet depth earlier data dispatcher (dispatcher.registry.functional_quiet functional)
  rw [counted]
  exact agree_same names dispatcher _ rfl rfl functional

theorem agree_add (dispatcher : Dispatcher C M H) (functional : dispatcher.registry.Functional) (name : String)
    (method : Method C M) (functionalMethod : method.Functional) (names : List String) (unnamed : name ∉ names) :
    Agree names dispatcher (add name method dispatcher).dispatcher := by
  refine ⟨fun other named => ?_, rfl, functional,
    dispatcher.registry.functional_register functional name method functionalMethod⟩
  have differs : other ≠ name := fun same => unnamed (same ▸ named)
  have kept := dispatcher.registry.lookup_register name other method
  rw [if_neg differs, Option.or_none] at kept
  exact kept.symm

/-- An answer, the observer's calls and the handlers' bodies are as on a new dispatcher with only the first
registrations under the methods named. Inputs dispatched before, names that were taken and names that the
input does not have make no difference. -/
theorem answers_forget_history (operations : List (Operation C M))
    (functional : ∀ operation ∈ operations, operation.Functional) (observer : Option H) (memory : M) (input : Input)
    (data : C) :
    let dispatcher : Dispatcher C M H := (history depth operations (create observer memory)).dispatcher
    let step := dispatch depth input data dispatcher
    (∀ chosen, (∀ entry, entry ∈ chosen ↔ entry ∈ firstRegistrations (registrations operations) input.methods) →
      ∀ unused : M,
        let fresh : Dispatcher C M H := (history depth (registering chosen) (create observer unused)).dispatcher
        let other := dispatch depth input data fresh
        step.value = other.value ∧ Trace.hookCalls step.trace = Trace.hookCalls other.trace ∧
          Trace.bodies step.trace = Trace.bodies other.trace) ∧
    (∀ earlier earlierData,
      let later := (dispatch depth earlier earlierData dispatcher).dispatcher
      (∃ memory, later =
        { dispatcher with sequence := dispatcher.sequence + .ofNat earlier.candidates.length, memory }) ∧
        step.Alike (dispatch depth input data later)) ∧
    (∀ name method, dispatcher.registry.contains name = true →
      (add name method dispatcher).value = false ∧ (add name method dispatcher).dispatcher = dispatcher) ∧
    (∀ name method, method.Functional → name ∉ input.methods →
      step.Alike (dispatch depth input data (add name method dispatcher).dispatcher)) := by
  intro dispatcher step
  obtain ⟨final, observed, found⟩ :=
    history_after depth operations (create observer memory : Dispatcher C M H) Registry.functional_empty functional
  have alike (other : Dispatcher C M H) (agree : Agree input.methods dispatcher other) :
      step.Alike (dispatch depth input data other) :=
    dispatch_alike (callback depth) data input dispatcher other agree
  refine ⟨?_, ?_, ?_, ?_⟩
  · intro chosen same unused fresh other
    obtain ⟨freshFinal, freshObserved, freshFound⟩ :=
      history_after depth (registering chosen) (create observer unused : Dispatcher C M H) Registry.functional_empty
        (chosen_functional operations functional input.methods chosen same)
    have agree : Agree input.methods dispatcher fresh := by
      refine ⟨fun name named => ?_, observed.trans freshObserved.symm, final, freshFinal⟩
      rw [found, freshFound, registrations_registering]
      exact congrArg _ (lookup_chosen (registrations operations) chosen input.methods same name named).symm
    exact ⟨(alike fresh agree).value, Step.alike_calls _ _ (alike fresh agree),
      Step.alike_bodies _ _ (alike fresh agree)⟩
  · intro earlier earlierData later
    exact ⟨dispatch_quiet depth earlier earlierData dispatcher (dispatcher.registry.functional_quiet final),
      alike later (agree_dispatch depth earlier earlierData dispatcher final input.methods)⟩
  · intro name method taken
    have kept := dispatcher.registry.register_taken name method taken
    exact ⟨congrArg Prod.fst kept, congrArg (fun registered => { dispatcher with registry := registered.2 }) kept⟩
  · intro name method functionalMethod unnamed
    exact alike _ (agree_add dispatcher final name method functionalMethod input.methods unnamed)

def mute : Method Unit Unit := .plain [] fun _ => .succeed .null

theorem echo_outlasts_history :
    let call : Json := .obj [("id", .str "a"), ("jsonrpc", .str "2.0"), ("method", .str "echo")]
    let operations : List (Operation Unit Unit) :=
      [.register "mute" mute, .register "echo" echo, .dispatch (.text "[1,") (), .register "echo" mute,
        .dispatch (.document (.arr [call, .null])) ()]
    let dispatcher : Dispatcher Unit Unit Unit := (history 1 operations (create (some ()) ())).dispatcher
    let fresh : Dispatcher Unit Unit Unit := (history 1 (registering [("echo", echo)]) (create (some ()) ())).dispatcher
    (∀ operation ∈ operations, operation.Functional) ∧
      firstRegistrations (registrations operations) (Input.document call).methods = [("echo", echo)] ∧
      (dispatch 1 (.document call) () dispatcher).value = .single (.success (.string "a") (.arr [])) ∧
      Trace.bodies (dispatch 1 (.document call) () dispatcher).trace =
        Trace.bodies (dispatch 1 (.document call) () fresh).trace := by
  intro call operations dispatcher fresh
  have muteFunctional : mute.Functional := Method.plain_functional _ _ fun _ => ⟨_, rfl⟩
  have functional : ∀ operation ∈ operations, operation.Functional := by
    simp [operations, Operation.Functional, echo_functional, muteFunctional]
  have first : firstRegistrations (registrations operations) (Input.document call).methods = [("echo", echo)] := rfl
  obtain ⟨same, _⟩ := answers_forget_history 1 operations functional (some ()) () (.document call) ()
  obtain ⟨value, _, bodies⟩ := same [("echo", echo)] (fun entry => by rw [first]) ()
  exact ⟨functional, first, value, bodies⟩

end Dispatcher

end JsonRpc
