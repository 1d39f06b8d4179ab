import Mathlib.Algebra.GroupWithZero.Nat
import Mathlib.Data.List.Nodup
import JsonRpc.Proofs.Lifecycle

set_option autoImplicit false

namespace JsonRpc

variable {C M H : Type} (depth : Nat)

inductive Query where
  | requestsSeen
  | methods
  | contains (name : String)
  | size
  | isEmpty
  | debug

inductive Finding where
  | seen (count : UInt64)
  | names (methods : List String)
  | holds (answer : Bool)
  | size (methods : Nat)
  | text (shown : String)

def Query.find (dispatcher : Dispatcher C M H) : Query → Finding
  | .requestsSeen => .seen dispatcher.requestsSeen
  | .methods => .names dispatcher.methods
  | .contains name => .holds (dispatcher.registry.contains name)
  | .size => .size dispatcher.registry.size
  | .isEmpty => .holds dispatcher.registry.isEmpty
  | .debug => .text dispatcher.debug

inductive Act (C M : Type) where
  | operate (operation : Operation C M)
  | ask (query : Query)

namespace Act

inductive Result where
  | replied (reply : Reply)
  | found (finding : Finding)

def run : Act C M → Run C M H Result
  | .operate operation => Run.map .replied (operation.run depth)
  | .ask query => fun dispatcher => ⟨.found (query.find dispatcher), dispatcher, []⟩

def operation? : Act C M → Option (Operation C M)
  | .operate operation => some operation
  | .ask _ => none

end Act

def Operation.input? : Operation C M → Option Input
  | .dispatch input _ => some input
  | .register _ _ => none

def session : List (Act C M) → Run C M H (List Act.Result)
  | [] => pure []
  | act :: rest => do
      let result ← act.run depth
      Run.map (result :: ·) (session rest)

def operations (acts : List (Act C M)) : List (Operation C M) := acts.filterMap Act.operation?

def inputs (operations : List (Operation C M)) : List Input := operations.filterMap Operation.input?

-- The elements of a list that is not empty count, and anything else counts as one.
def Input.size (input : Input) : Nat :=
  match input.document? with
  | some (.arr (first :: rest)) => (first :: rest).length
  | _ => 1

theorem Input.candidates_size (input : Input) : input.candidates.length = input.size := by
  have document (content : Json) : (Candidate.ofDocument content).length = (Input.document content).size := by
    cases content with
    | arr entries => cases entries <;> simp [Candidate.ofDocument, size, document?]
    | _ => rfl
  cases input with
  | document content => exact document content
  | text source =>
      cases parsed : Json.parse source with
      | ok content => simpa [candidates, size, document?, parsed, Except.toOption] using document content
      | error error => simp [candidates, size, document?, parsed, Except.toOption]

theorem session_history (acts : List (Act C M)) (dispatcher : Dispatcher C M H) :
    (session depth acts dispatcher).dispatcher = (history depth (operations acts) dispatcher).dispatcher ∧
      (session depth acts dispatcher).trace = (history depth (operations acts) dispatcher).trace := by
  induction acts generalizing dispatcher with
  | nil => exact ⟨rfl, rfl⟩
  | cons act rest ih =>
      cases act with
      | ask query => exact ih dispatcher
      | operate operation =>
          obtain ⟨reached, trace⟩ := ih (operation.run depth dispatcher).dispatcher
          exact ⟨reached, congrArg ((operation.run depth dispatcher).trace ++ ·) trace⟩

theorem visits_candidates (operations : List (Operation C M)) (registry : Registry C M) :
    (visits operations registry).map Visit.candidate = (inputs operations).flatMap Input.candidates := by
  induction operations generalizing registry with
  | nil => rfl
  | cons operation rest ih =>
      cases operation with
      | register name method => exact ih _
      | dispatch input data =>
          have named : (Operation.visits registry (.dispatch input data)).map Visit.candidate = input.candidates := by
            simp [Operation.visits, Function.comp_def]
          rw [visits, List.map_append, named, ih]
          rfl

def Candidate.notice (candidate : Candidate) : Notice :=
  match candidate.request with
  | .error error => candidate.complaint error
  | .ok request => .dispatching request.method request.id

def Entry.spanned (entry : Entry C H) : Bool := !entry.spans.isEmpty

structure Numbered (observer : Option H) (number : UInt64) (candidate : Candidate) (part : List (Entry C H)) :
    Prop where
  inside : ∀ entry ∈ part, entry.spans = [number]
  noted : ⟨[number], .notice candidate.notice⟩ ∈ part
  told : ∃ block : Block C, Trace.hookCalls part = Trace.told observer block.calls ∧ block.raw = candidate.raw

def NumberedInTurn (observer : Option H) (first : UInt64) (start : Nat) (candidates : List Candidate)
    (parts : List (List (Entry C H))) : Prop :=
  List.Forall₂ (fun entry part => Numbered observer (first + .ofNat entry.2) entry.1 part) (candidates.zipIdx start)
    parts

theorem numbered_append (observer : Option H) (first : UInt64) (start : Nat) (candidates others : List Candidate)
    (parts otherParts : List (List (Entry C H))) (one : NumberedInTurn observer first start candidates parts)
    (next : NumberedInTurn observer first (start + candidates.length) others otherParts) :
    NumberedInTurn observer first start (candidates ++ others) (parts ++ otherParts) := by
  rw [NumberedInTurn, List.zipIdx_append]
  exact List.rel_append one next

theorem Numbered.spanned (observer : Option H) (number : UInt64) (candidate : Candidate) (part : List (Entry C H))
    (numbered : Numbered observer number candidate part) : part.filter Entry.spanned = part := by
  refine List.filter_eq_self.mpr fun entry member => ?_
  simp [Entry.spanned, numbered.inside entry member]

namespace Dispatcher

theorem handle_numbered (data : C) (candidate : Candidate) (dispatcher : Dispatcher C M H)
    (quiet : dispatcher.registry.Quiet) :
    Numbered dispatcher.observer dispatcher.requestsSeen candidate
      (handle (callback depth) data candidate dispatcher).trace := by
  have direct := (handle_quiet (callback depth) data candidate dispatcher quiet).2
  have calls := handle_block (callback depth) (callback_discreet depth) data candidate dispatcher
  rw [direct] at calls
  refine ⟨?_, ?_, _, calls, ?_⟩
  · intro entry member
    have depth : entry.spans.length = 1 := by
      rw [← direct] at member
      simpa [Trace.atDepth] using (List.mem_filter.mp member).2
    obtain ⟨inner, _, rfl⟩ := List.mem_map.mp member
    simpa [Entry.within, requestsSeen] using depth
  · cases validated : candidate.request with
    | error error =>
        rw [handle_refused (callback depth) dispatcher data candidate error validated]
        simp [Candidate.notice, validated, Trace.ofNotices, Entry.within, requestsSeen]
    | ok request =>
        rw [handle_accepted (callback depth) dispatcher data candidate request validated]
        simp [Candidate.notice, validated, Trace.ofNotices, Entry.within, requestsSeen]
  · cases validated : candidate.request <;> simp [block, validated]

theorem turns_numbered (data : C) (first : UInt64) (start : Nat) (candidates : List Candidate)
    (dispatcher : Dispatcher C M H) (quiet : dispatcher.registry.Quiet)
    (reached : dispatcher.requestsSeen = first + .ofNat start) :
    ∃ parts, (traces (Run.turns (handle (callback depth) data) candidates dispatcher)).filter Entry.spanned =
        parts.flatten ∧ NumberedInTurn dispatcher.observer first start candidates parts := by
  induction candidates generalizing dispatcher start with
  | nil => exact ⟨[], rfl, .nil⟩
  | cons candidate rest ih =>
      obtain ⟨memory, counted⟩ := (handle_quiet (callback depth) data candidate dispatcher quiet).1
      have next :
          ({ dispatcher.counted with memory } : Dispatcher C M H).requestsSeen = first + .ofNat (start + 1) := by
        rw [UInt64.ofNat_add, ← UInt64.add_assoc, ← reached]
        rfl
      have numbered := handle_numbered depth data candidate dispatcher quiet
      obtain ⟨parts, seen, later⟩ := ih (start + 1) { dispatcher.counted with memory } quiet next
      refine ⟨_ :: parts, ?_, .cons (reached ▸ numbered) later⟩
      simp only [Run.turns, traces, List.flatMap_cons, List.filter_append, counted, List.flatten_cons,
        numbered.spanned]
      exact congrArg _ seen

theorem dispatch_numbered (input : Input) (data : C) (first : UInt64) (start : Nat) (dispatcher : Dispatcher C M H)
    (quiet : dispatcher.registry.Quiet) (reached : dispatcher.requestsSeen = first + .ofNat start) :
    ∃ parts, (dispatch depth input data dispatcher).trace.filter Entry.spanned = parts.flatten ∧
      NumberedInTurn dispatcher.observer first start input.candidates parts := by
  obtain ⟨parts, seen, numbered⟩ := turns_numbered depth data first start input.candidates dispatcher quiet reached
  obtain ⟨notices, announced⟩ := announcement_notices (C := C) (H := H) input.document?
  have bare : (Trace.ofNotices notices : List (Entry C H)).filter Entry.spanned = [] := by
    simp [Trace.ofNotices, Entry.spanned]
  refine ⟨parts, ?_, numbered⟩
  rw [dispatch, dispatch_with_turns]
  simp only [announced, List.filter_append, bare, List.nil_append]
  exact seen

end Dispatcher

theorem history_counted (operations : List (Operation C M)) (dispatcher : Dispatcher C M H) (first : UInt64)
    (start : Nat) (quiet : dispatcher.registry.Quiet) (quietOperations : ∀ operation ∈ operations, operation.Quiet)
    (reached : dispatcher.requestsSeen = first + .ofNat start) :
    let candidates := (inputs operations).flatMap Input.candidates
    let step := history depth operations dispatcher
    step.dispatcher.requestsSeen = first + .ofNat (start + candidates.length) ∧
      ∃ parts, step.trace.filter Entry.spanned = parts.flatten ∧
        NumberedInTurn dispatcher.observer first start candidates parts := by
  induction operations generalizing dispatcher start with
  | nil => exact ⟨reached, [], rfl, .nil⟩
  | cons operation rest ih =>
      have quietRest : ∀ other ∈ rest, other.Quiet := fun other member => quietOperations other (by simp [member])
      cases operation with
      | register name method =>
          have quietMethod : method.Quiet := quietOperations (.register name method) (by simp)
          have quietAfter := Registry.quiet_register dispatcher.registry quiet name method quietMethod
          exact ih _ start quietAfter quietRest reached
      | dispatch input data =>
          obtain ⟨memory, counted⟩ := Dispatcher.dispatch_quiet depth input data dispatcher quiet
          obtain ⟨parts, seen, numbered⟩ :=
            Dispatcher.dispatch_numbered depth input data first start dispatcher quiet reached
          obtain ⟨total, later, laterSeen, laterNumbered⟩ :=
            ih (Dispatcher.dispatch depth input data dispatcher).dispatcher (start + input.candidates.length)
              (by rw [counted]; exact quiet) quietRest
              (by rw [counted, UInt64.ofNat_add, ← UInt64.add_assoc, ← reached]; rfl)
          rw [counted] at laterNumbered
          have candidates : ((inputs (.dispatch input data :: rest)).flatMap Input.candidates) =
              input.candidates ++ (inputs rest).flatMap Input.candidates := rfl
          refine ⟨?_, parts ++ later, ?_, ?_⟩
          · rw [candidates, List.length_append, ← Nat.add_assoc]
            exact total
          · rw [List.flatten_append, ← seen, ← laterSeen]
            exact List.filter_append ..
          · rw [candidates]
            exact numbered_append dispatcher.observer first start input.candidates _ parts later numbered laterNumbered

def HookCall.opens : HookCall C → Bool
  | .beforeRequest _ _ => true
  | _ => false

def HookCall.closes : HookCall C → Bool
  | .afterRequest _ _ _ => true
  | _ => false

theorem Block.calls_counted (kind : HookCall C → Bool) (once : ∀ block : Block C, block.calls.countP kind = 1)
    (blocks : List (Block C)) : (blocks.flatMap Block.calls).countP kind = blocks.length := by
  simp [List.countP_flatMap, Function.comp_def, once]

theorem Block.opened_once (block : Block C) : block.calls.countP HookCall.opens = 1 := by
  obtain ⟨_, _, invoked, _⟩ := block
  cases invoked <;> rfl

theorem Block.closed_once (block : Block C) : block.calls.countP HookCall.closes = 1 := by
  obtain ⟨_, _, invoked, _⟩ := block
  cases invoked <;> rfl

theorem history_calls_counted (kind : HookCall C → Bool) (once : ∀ block : Block C, block.calls.countP kind = 1)
    (operations : List (Operation C M)) (dispatcher : Dispatcher C M H) (observer : H)
    (observed : dispatcher.observer = some observer) (quiet : dispatcher.registry.Quiet)
    (quietOperations : ∀ operation ∈ operations, operation.Quiet) :
    (Trace.hookCalls (history depth operations dispatcher).trace).countP (fun told => kind told.2) =
      ((inputs operations).flatMap Input.candidates).length := by
  obtain ⟨blocks, calls, reports⟩ := history_blocks depth operations dispatcher quiet quietOperations
  have each : blocks.length = ((inputs operations).flatMap Input.candidates).length := by
    rw [← visits_candidates operations dispatcher.registry, List.length_map, reports.length_eq]
  rw [calls, observed, ← each, ← Block.calls_counted kind once blocks]
  simp [Trace.told, List.countP_map, Function.comp_def]

theorem numbers_distinct (first : UInt64) (count : Nat) (few : count ≤ 0x10000000000000000) :
    ((List.range count).map fun index => first + .ofNat index).Nodup := by
  refine List.Nodup.map_on ?_ List.nodup_range
  intro index earlier other later same
  have numbers := congrArg UInt64.toNat ((UInt64.add_right_inj first).mp same)
  simp only [List.mem_range] at earlier later
  simp only [UInt64.toNat_ofNat'] at numbers
  omega

/-- The requests seen are the candidates of the inputs: the elements of each list that is not empty, and one for
anything else. Each is seen in a span of its own, and the spans are numbered in turn; the numbers start over after
2^64. Neither registration nor a question counts, and an observer hears of as many requests before as after. -/
theorem requests_numbered_in_turn (acts : List (Act C M)) (dispatcher : Dispatcher C M H)
    (quiet : dispatcher.registry.Quiet) (quietActs : ∀ operation ∈ operations acts, operation.Quiet) :
    let step := session depth acts dispatcher
    let candidates := (inputs (operations acts)).flatMap Input.candidates
    let count := ((inputs (operations acts)).map Input.size).sum
    let number (index : Nat) := dispatcher.requestsSeen + .ofNat index
    candidates.length = count ∧
      step.dispatcher.requestsSeen = number count ∧
      (∃ parts, step.trace.filter Entry.spanned = parts.flatten ∧
        List.Forall₂ (fun entry part => Numbered dispatcher.observer (number entry.2) entry.1 part)
          candidates.zipIdx parts) ∧
      (count ≤ 0x10000000000000000 → ((List.range count).map number).Nodup) ∧
      (∀ act : Act C M, inputs (operations [act]) = [] → ∀ other : Dispatcher C M H,
        (act.run depth other).dispatcher.requestsSeen = other.requestsSeen) ∧
      ∀ observer, dispatcher.observer = some observer →
        (Trace.hookCalls step.trace).countP (fun told => told.2.opens) = count ∧
          (Trace.hookCalls step.trace).countP (fun told => told.2.closes) = count := by
  intro step candidates count number
  have sized : candidates.length = count := by
    simp [candidates, count, List.length_flatMap, Input.candidates_size]
  obtain ⟨reached, trace⟩ := session_history depth acts dispatcher
  obtain ⟨total, parts, seen, numbered⟩ := history_counted depth (operations acts) dispatcher dispatcher.requestsSeen 0
    quiet quietActs (by simp)
  refine ⟨sized, ?_, ⟨parts, ?_, numbered⟩, numbers_distinct dispatcher.requestsSeen count, ?_, ?_⟩
  · rw [reached, ← sized]
    rw [Nat.zero_add] at total
    exact total
  · rw [← seen, trace]
  · intro act uncounted other
    match act with
    | .ask query => rfl
    | .operate (.register name method) => rfl
    | .operate (.dispatch input data) => cases uncounted
  · intro observer observed
    have calls (kind : HookCall C → Bool) (once : ∀ block : Block C, block.calls.countP kind = 1) :=
      history_calls_counted depth kind once (operations acts) dispatcher observer observed quiet quietActs
    rw [← sized, trace]
    exact ⟨calls HookCall.opens Block.opened_once, calls HookCall.closes Block.closed_once⟩

theorem mixed_inputs_numbered :
    let call (id : Members) : Json := .obj (id ++ [("jsonrpc", .str "2.0"), ("method", .str "late")])
    let acts : List (Act Unit Unit) :=
      [.operate (.dispatch (.text "[1,") ()), .ask .requestsSeen, .operate (.dispatch (.document (.arr [])) ()),
        .operate (.register "late" Dispatcher.echo),
        .operate (.dispatch (.document (.arr [call [("id", .str "a")], .null, call []])) ()), .ask .methods]
    let step := session 1 acts Dispatcher.echoing
    Dispatcher.echoing.registry.Quiet ∧ (∀ operation ∈ operations acts, operation.Quiet) ∧
      step.dispatcher.requestsSeen = 5 ∧
      (∃ parts, step.trace.filter Entry.spanned = parts.flatten ∧
        List.Forall₂ (fun number part => ∀ entry ∈ part, entry.spans = [number]) [0, 1, 2, 3, 4] parts) ∧
      (Trace.hookCalls step.trace).countP (fun told => told.2.opens) = 5 := by
  intro call acts step
  have quietActs : ∀ operation ∈ operations acts, operation.Quiet := by
    intro operation taken
    cases operation with
    | dispatch input data => trivial
    | register name method =>
        obtain ⟨_, late⟩ : "late" = name ∧ Dispatcher.echo = method := by
          simpa [operations, acts, Act.operation?] using taken
        exact late ▸ Dispatcher.echo_quiet
  obtain ⟨_, total, ⟨parts, seen, numbered⟩, _, _, calls⟩ :=
    requests_numbered_in_turn 1 acts Dispatcher.echoing Dispatcher.echoing_quiet quietActs
  refine ⟨Dispatcher.echoing_quiet, quietActs, total, ⟨parts, seen, ?_⟩, (calls () rfl).1⟩
  exact (List.forall₂_map_left_iff (f := fun entry : Candidate × Nat => 0 + UInt64.ofNat entry.2)).mpr
    (numbered.imp fun _ _ part => part.inside)

end JsonRpc
