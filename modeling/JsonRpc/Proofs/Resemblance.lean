import Mathlib.Data.List.Forall2
import JsonRpc.Proofs.Handling

set_option autoImplicit false

namespace JsonRpc

variable {C M H α : Type}

inductive HookCall.Resembles (shown : Context C → Context C → Prop) : HookCall C → HookCall C → Prop
  | beforeRequest (raw other : Json) (context counterpart : Context C) (related : shown context counterpart) :
      Resembles shown (.beforeRequest raw context) (.beforeRequest other counterpart)
  | beforeInvoke (method : String) (context counterpart : Context C) (related : shown context counterpart) :
      Resembles shown (.beforeInvoke method context) (.beforeInvoke method counterpart)
  | afterRequest (method : String) (outcome : Except RpcError Json) (context counterpart : Context C)
      (related : shown context counterpart) :
      Resembles shown (.afterRequest method outcome context) (.afterRequest method outcome counterpart)

theorem HookCall.resembles_same (shown : Context C → Context C → Prop) (reflexive : ∀ context, shown context context)
    (call : HookCall C) : call.Resembles shown call := by
  cases call with
  | beforeRequest raw context => exact .beforeRequest raw raw context context (reflexive context)
  | beforeInvoke method context => exact .beforeInvoke method context context (reflexive context)
  | afterRequest method outcome context => exact .afterRequest method outcome context context (reflexive context)

inductive Entry.Resembles (shown : Context C → Context C → Prop) : Entry C H → Entry C H → Prop
  | same (entry : Entry C H) : Resembles shown entry entry
  | told (spans : List UInt64) (observer : H) (call other : HookCall C) (alike : call.Resembles shown other) :
      Resembles shown ⟨spans, .hook observer call⟩ ⟨spans, .hook observer other⟩

namespace Trace

def Resembles (shown : Context C → Context C → Prop) (trace other : List (Entry C H)) : Prop :=
  List.Forall₂ (Entry.Resembles shown) trace other

variable (shown : Context C → Context C → Prop)

theorem resembles_same (trace : List (Entry C H)) : Resembles shown trace trace :=
  List.forall₂_same.mpr fun entry _ => .same entry

theorem resembles_append (first other second another : List (Entry C H)) (start : Resembles shown first other)
    (rest : Resembles shown second another) : Resembles shown (first ++ second) (other ++ another) :=
  List.rel_append start rest

theorem resembles_report (dispatcher : Dispatcher C M H) (call other : HookCall C)
    (alike : call.Resembles shown other) : Resembles shown (dispatcher.report call) (dispatcher.report other) := by
  cases present : dispatcher.observer with
  | none => simpa [Dispatcher.report, present] using resembles_same shown []
  | some observer =>
      have told : Entry.Resembles shown ⟨[], .hook observer call⟩ ⟨[], .hook observer other⟩ := .told _ _ _ _ alike
      simpa [Dispatcher.report, present, Resembles] using told

theorem resembles_within (sequence : UInt64) (trace other : List (Entry C H)) (alike : Resembles shown trace other) :
    Resembles shown (trace.map (Entry.within sequence)) (other.map (Entry.within sequence)) := by
  refine List.rel_map (fun {entry counterpart} one => ?_) alike
  cases one with
  | same entry => exact .same _
  | told spans observer call other alike => exact .told (sequence :: spans) observer call other alike

theorem resembles_bodies (trace other : List (Entry C H)) (alike : Resembles shown trace other) :
    bodies trace = bodies other := by
  have each : List.Forall₂ Eq (bodies trace) (bodies other) := by
    refine List.rel_filterMap (fun {entry counterpart} one => ?_) alike
    cases one with
    | same entry => cases entry.body? <;> constructor; rfl
    | told spans observer call other alike => exact .none
  rwa [List.forall₂_eq_eq_eq] at each

theorem resembles_calls (reflexive : ∀ context, shown context context) (trace other : List (Entry C H))
    (alike : Resembles shown trace other) :
    List.Forall₂ (fun told heard => told.1 = heard.1 ∧ told.2.Resembles shown heard.2) (hookCalls trace)
      (hookCalls other) := by
  refine List.rel_filterMap (fun {entry counterpart} one => ?_) alike
  cases one with
  | told spans observer call other alike => exact .some ⟨rfl, alike⟩
  | same entry =>
      cases entry.hookCall? with
      | none => exact .none
      | some told => exact .some ⟨rfl, told.2.resembles_same shown reflexive⟩

end Trace

structure Step.Resembles (shown : Context C → Context C → Prop) (step other : Step C M H α) : Prop where
  value : step.value = other.value
  dispatcher : step.dispatcher = other.dispatcher
  trace : Trace.Resembles shown step.trace other.trace

inductive Counterparts (shown : Context C → Context C → Prop) (registry : Registry C M) (data other : C)
    (first second : Candidate) : Prop
  | refused (error : RpcError) (left : first.request = .error error) (right : second.request = .error error)
      (returnId : first.returnId = second.returnId) (complaint : first.complaint error = second.complaint error)
  | accepted (request counterpart : Request) (left : first.request = .ok request)
      (right : second.request = .ok counterpart) (method : request.method = counterpart.method)
      (id : request.id = counterpart.id) (related : shown (request.context data) (counterpart.context other))
      (taken : ∀ method, registry.lookup request.method = some method →
        method.marshal (request.context data) request.params =
            method.marshal (counterpart.context other) counterpart.params ∧
          Dispatcher.given method (request.context data) = Dispatcher.given method (counterpart.context other))

-- Entries of a document that are the same, or are objects that differ in their members as far as is allowed.
inductive Json.Varies (vary : Members → Members → Prop) : Json → Json → Prop
  | same (entry : Json) : Varies vary entry entry
  | object (members others : Members) (allowed : vary members others) : Varies vary (.obj members) (.obj others)

inductive Json.VariesIn (vary : Members → Members → Prop) : Json → Json → Prop
  | one (document other : Json) (varies : document.Varies vary other) : VariesIn vary document other
  | batch (entries others : List Json) (each : List.Forall₂ (Json.Varies vary) entries others) :
      VariesIn vary (.arr entries) (.arr others)

inductive Candidate.Varies (vary : Members → Members → Prop) : Candidate → Candidate → Prop
  | same (candidate : Candidate) : Varies vary candidate candidate
  | object (members others : Members) (allowed : vary members others) :
      Varies vary (.value (.obj members)) (.value (.obj others))

theorem Candidate.value_varies (vary : Members → Members → Prop) (entry other : Json)
    (varies : entry.Varies vary other) : Varies vary (.value entry) (.value other) := by
  cases varies with
  | same entry => exact .same _
  | object members others allowed => exact .object members others allowed

theorem Candidate.document_varies (vary : Members → Members → Prop) (document other : Json)
    (varies : document.VariesIn vary other) :
    List.Forall₂ (Varies vary) (ofDocument document) (ofDocument other) := by
  cases varies with
  | one document other varies =>
      cases varies with
      | same entry => exact List.forall₂_same.mpr fun candidate _ => .same candidate
      | object members others allowed => exact .cons (.object members others allowed) .nil
  | batch entries others each =>
      cases each with
      | nil => exact .cons (.same _) .nil
      | cons one rest => exact List.rel_map (fun {entry other} => value_varies vary entry other) (.cons one rest)

namespace Dispatcher

theorem announcement_varies (vary : Members → Members → Prop) (document other : Json)
    (varies : document.VariesIn vary other) :
    (announcement (some document) : List (Entry C H)) = announcement (some other) ∧
      assemble (some document) = assemble (some other) := by
  cases varies with
  | one document other varies => cases varies <;> exact ⟨rfl, rfl⟩
  | batch entries others each =>
      cases each with
      | nil => exact ⟨rfl, rfl⟩
      | cons one rest => exact ⟨by simp only [announcement, List.length_cons, rest.length_eq], rfl⟩

variable (nested : String → C → Run C M H Answer) (shown : Context C → Context C → Prop) (data other : C)

theorem invoke_resembles (request counterpart : Request) (context another : Context C) (dispatcher : Dispatcher C M H)
    (same : request.method = counterpart.method) (related : shown context another)
    (taken : ∀ method, dispatcher.registry.lookup request.method = some method →
      method.marshal context request.params = method.marshal another counterpart.params ∧
        given method context = given method another) :
    (invoke nested request context dispatcher).Resembles shown (invoke nested counterpart another dispatcher) := by
  have told := Trace.resembles_report shown dispatcher _ _ (.beforeInvoke request.method context another related)
  cases registered : dispatcher.registry.lookup request.method with
  | none =>
      rw [invoke_unknown nested dispatcher request context registered,
        invoke_unknown nested dispatcher counterpart another (same ▸ registered)]
      exact ⟨rfl, rfl, Trace.resembles_same shown []⟩
  | some method =>
      obtain ⟨marshaled, handed⟩ := taken method registered
      cases fits : method.marshal context request.params with
      | error misfit =>
          rw [invoke_misfit nested dispatcher request context method misfit registered fits,
            invoke_misfit nested dispatcher counterpart another method misfit (same ▸ registered)
              (marshaled.symm.trans fits), ← same]
          exact ⟨rfl, rfl, told⟩
      | ok bound =>
          obtain ⟨arguments, action⟩ := bound
          rw [invoke_runs nested dispatcher request context method arguments action registered fits,
            invoke_runs nested dispatcher counterpart another method arguments action (same ▸ registered)
              (marshaled.symm.trans fits), ← same, ← handed]
          exact ⟨rfl, rfl, Trace.resembles_append shown _ _ _ _ told (Trace.resembles_same shown _)⟩

theorem handle_resembles (opening : shown (Context.ofCaller data) (Context.ofCaller other)) (first second : Candidate)
    (dispatcher : Dispatcher C M H) (alike : Counterparts shown dispatcher.registry data other first second) :
    (handle nested data first dispatcher).Resembles shown (handle nested other second dispatcher) := by
  have before := Trace.resembles_report shown dispatcher _ _
    (.beforeRequest first.raw second.raw (Context.ofCaller data) (Context.ofCaller other) opening)
  cases alike with
  | refused error left right returnId complaint =>
      have after := Trace.resembles_report shown dispatcher _ _
        (.afterRequest "" (.error error) (Context.ofCaller data) (Context.ofCaller other) opening)
      have logged := Trace.resembles_same shown (Trace.ofNotices [first.complaint error] : List (Entry C H))
      rw [handle_refused nested dispatcher data first error left,
        handle_refused nested dispatcher other second error right, returnId, ← complaint]
      refine ⟨rfl, rfl, Trace.resembles_within shown dispatcher.sequence _ _ ?_⟩
      have opened := Trace.resembles_append shown _ _ _ _ before logged
      exact Trace.resembles_append shown _ _ _ _ opened after
  | accepted request counterpart left right method id related taken =>
      obtain ⟨value, reached, trace⟩ := invoke_resembles nested shown request counterpart (request.context data)
        (counterpart.context other) dispatcher.counted method related taken
      have after := Trace.resembles_report shown (invoke nested counterpart (counterpart.context other)
        dispatcher.counted).dispatcher _ _ (.afterRequest counterpart.method
          (invoke nested counterpart (counterpart.context other) dispatcher.counted).value _ _ related)
      have silence : silenceNotices request = silenceNotices counterpart := by
        simp [silenceNotices, Request.isNotification, method, id]
      rw [handle_accepted nested dispatcher data first request left,
        handle_accepted nested dispatcher other second counterpart right]
      simp only [value, reached, method, id, silence]
      refine ⟨rfl, rfl, Trace.resembles_within shown dispatcher.sequence _ _ ?_⟩
      have logged (notices : List Notice) := Trace.resembles_same shown (Trace.ofNotices notices : List (Entry C H))
      refine Trace.resembles_append shown _ _ _ _ ?_ (logged (silenceNotices counterpart))
      refine Trace.resembles_append shown _ _ _ _ ?_ after
      refine Trace.resembles_append shown _ _ _ _ ?_ (logged _)
      refine Trace.resembles_append shown _ _ _ _ ?_ trace
      exact Trace.resembles_append shown _ _ _ _ before (logged _)

theorem turns_resemble (vary : Members → Members → Prop)
    (opening : shown (Context.ofCaller data) (Context.ofCaller other)) (firsts seconds : List Candidate)
    (varies : List.Forall₂ (Candidate.Varies vary) firsts seconds) (dispatcher : Dispatcher C M H)
    (alike : ∀ turn ∈ Run.turns (handle nested data) firsts dispatcher, ∀ second, turn.item.Varies vary second →
      Counterparts shown turn.start.registry data other turn.item second) :
    let turns := Run.turns (handle nested data) firsts dispatcher
    let others := Run.turns (handle nested other) seconds dispatcher
    messages turns = messages others ∧ Turn.last turns dispatcher = Turn.last others dispatcher ∧
      Trace.Resembles shown (traces turns) (traces others) := by
  induction varies generalizing dispatcher with
  | nil => exact ⟨rfl, rfl, .nil⟩
  | @cons first second rest more varies _ ih =>
      obtain ⟨value, reached, trace⟩ := handle_resembles nested shown data other opening first second dispatcher
        (alike _ (List.mem_cons_self ..) second varies)
      obtain ⟨values, last, seen⟩ := ih (handle nested data first dispatcher).dispatcher
        fun turn taken => alike turn (List.mem_cons_of_mem _ taken)
      refine ⟨?_, ?_, ?_⟩
      · simpa only [Run.turns, messages, List.flatMap_cons, value, reached] using congrArg _ values
      · simpa only [Run.turns, Turn.last, List.foldl_cons, reached] using last
      · rw [reached] at seen
        simpa only [Run.turns, traces, List.flatMap_cons, reached] using
          Trace.resembles_append shown _ _ _ _ trace seen

theorem process_resembles (vary : Members → Members → Prop)
    (opening : shown (Context.ofCaller data) (Context.ofCaller other)) (document another : Json)
    (varies : document.VariesIn vary another) (dispatcher : Dispatcher C M H)
    (alike : ∀ turn ∈ Run.turns (handle nested data) (Candidate.ofDocument document) dispatcher, ∀ second,
      turn.item.Varies vary second → Counterparts shown turn.start.registry data other turn.item second) :
    (processWith nested document data dispatcher).Resembles shown (processWith nested another other dispatcher) := by
  obtain ⟨announced, assembled⟩ := announcement_varies (C := C) (H := H) vary document another varies
  obtain ⟨values, last, seen⟩ := turns_resemble nested shown data other vary opening _ _
    (Candidate.document_varies vary document another varies) dispatcher alike
  rw [process_with_turns, process_with_turns, announced, assembled]
  exact ⟨congrArg (assemble _) values, last,
    Trace.resembles_append shown _ _ _ _ (Trace.resembles_same shown _) seen⟩

end Dispatcher

end JsonRpc
