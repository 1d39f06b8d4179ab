import JsonRpc.Proofs.Addressing
import JsonRpc.Proofs.Agreement
import JsonRpc.Proofs.Identification
import JsonRpc.Proofs.Lifecycle

set_option autoImplicit false

namespace JsonRpc

variable {C M H : Type} (depth : Nat)

def HookCall.outcome? : HookCall C → Option (Except RpcError Json)
  | .afterRequest _ outcome _ => some outcome
  | _ => none

def Trace.outcomes (trace : List (Entry C H)) : List (Except RpcError Json) :=
  (hookCalls trace).filterMap fun told => told.2.outcome?

def Message.Tells : Message → Except RpcError Json → Prop
  | .result sent, .ok value => sent.result = value
  | .error sent, .error reason => sent.error = reason
  | _, _ => False

def Candidate.isNotification : Candidate → Bool
  | .value raw => raw.isSilent
  | _ => false

def Candidate.answered (candidate : Candidate) (outcome : Except RpcError Json) : Option Message :=
  match candidate.request with
  | .error _ => some (.ofOutcome candidate.returnId outcome)
  | .ok request => request.id.map fun id => .ofOutcome id outcome

theorem Message.of_outcome_tells (id : RequestId) (outcome : Except RpcError Json) :
    (ofOutcome id outcome).Tells outcome := by
  cases outcome <;> rfl

theorem Block.calls_outcome (block : Block C) : block.calls.filterMap HookCall.outcome? = [block.outcome] := by
  simp only [calls, invocation]
  cases block.invoked <;> rfl

theorem Trace.outcomes_told (trace : List (Entry C H)) (observer : H) (blocks : List (Block C))
    (calls : hookCalls trace = told (some observer) (blocks.flatMap Block.calls)) :
    outcomes trace = blocks.map Block.outcome := by
  have heard : outcomes trace = (blocks.flatMap Block.calls).filterMap HookCall.outcome? := by
    rw [outcomes, calls, told, List.filterMap_map]
    rfl
  rw [heard, List.filterMap_flatMap]
  simp only [Block.calls_outcome, ← List.map_eq_flatMap]

theorem Candidate.notification_accepted (candidate : Candidate) (silent : candidate.isNotification = true) :
    ∃ members request, candidate = .value (.obj members) ∧ Request.ofJson (.obj members) = .ok request := by
  cases candidate with
  | value raw =>
      simp only [isNotification, Json.isSilent, Bool.and_eq_true] at silent
      cases valid : Request.ofJson raw with
      | error error => simp [valid, Except.toBool] at silent
      | ok request =>
          obtain ⟨members, _, _, rfl, _⟩ := Request.of_json_accepted raw request valid
          exact ⟨members, request, rfl, valid⟩
  | _ => simp [isNotification] at silent

theorem Candidate.one_of_document (document : Json) (noBatch : ∀ first rest, document ≠ .arr (first :: rest)) :
    ∃ candidate, ofDocument document = [candidate] := by
  cases document with
  | arr entries =>
      cases entries with
      | nil => exact ⟨_, rfl⟩
      | cons first rest => exact absurd rfl (noBatch first rest)
  | _ => exact ⟨_, rfl⟩

theorem Input.one_candidate (input : Input)
    (noBatch : ∀ first rest, input.document? ≠ some (.arr (first :: rest))) :
    ∃ candidate, input.candidates = [candidate] := by
  cases input with
  | document content =>
      exact Candidate.one_of_document content fun first rest same => noBatch first rest (congrArg some same)
  | text source =>
      simp only [document?, candidates] at noBatch ⊢
      cases parsed : Json.parse source with
      | error error => exact ⟨_, rfl⟩
      | ok content =>
          rw [parsed] at noBatch
          exact Candidate.one_of_document content fun first rest same => noBatch first rest (congrArg some same)

namespace Dispatcher

theorem of_messages_messages (messages : List Message) : (Answer.ofMessages messages).messages = messages := by
  cases messages <;> rfl

theorem assemble_single (document? : Option Json) (noBatch : ∀ first rest, document? ≠ some (.arr (first :: rest)))
    (messages : List Message) : assemble document? messages = .ofMessage? messages.head? := by
  unfold assemble
  split
  · exact absurd rfl (noBatch _ _)
  · rfl

variable (nested : String → C → Run C M H Answer) (data : C)

theorem answer_messages (input : Input) (dispatcher : Dispatcher C M H) :
    (dispatchWith nested input data dispatcher).value.messages =
      messages (Run.turns (handle nested data) input.candidates dispatcher) := by
  have assembled : (dispatchWith nested input data dispatcher).value =
      assemble input.document? (messages (Run.turns (handle nested data) input.candidates dispatcher)) :=
    congrArg Step.value (dispatch_with_turns nested input data dispatcher)
  rw [assembled]
  by_cases batch : ∃ first rest, input.document? = some (.arr (first :: rest))
  · obtain ⟨first, rest, list⟩ := batch
    simp [list, assemble, of_messages_messages]
  · have noBatch : ∀ first rest, input.document? ≠ some (.arr (first :: rest)) :=
      fun first rest list => batch ⟨first, rest, list⟩
    obtain ⟨candidate, one⟩ := input.one_candidate noBatch
    rw [assemble_single input.document? noBatch, one]
    cases sent : (handle nested data candidate dispatcher).value <;>
      simp [Run.turns, messages, sent, Answer.ofMessage?, Answer.messages]

theorem list_answer (entries : List Json) (present : entries ≠ []) (dispatcher : Dispatcher C M H) :
    (processWith nested (.arr entries) data dispatcher).value =
      .ofMessages (messages (Run.turns (handle nested data) (entries.map .value) dispatcher)) := by
  obtain ⟨first, rest, rfl⟩ := List.exists_cons_of_ne_nil present
  exact congrArg Step.value (process_with_turns nested data (.arr (first :: rest)) dispatcher)

theorem handle_told (candidate : Candidate) (dispatcher : Dispatcher C M H) :
    let message? := (handle nested data candidate dispatcher).value
    (candidate.isNotification = true → message? = none) ∧
      (candidate.isNotification = false →
        ∃ message, message? = some message ∧ message.Tells (outcome nested data candidate dispatcher)) := by
  have tells (message : Message) (sent : (handle nested data candidate dispatcher).value = some message) :
      message.Tells (outcome nested data candidate dispatcher) := by
    rw [handle_message nested data candidate dispatcher message sent]
    exact Message.of_outcome_tells _ _
  cases candidate with
  | value raw =>
      obtain ⟨silent, loud⟩ := handle_addressed nested data raw dispatcher
      refine ⟨silent, fun heard => ?_⟩
      obtain ⟨message, sent, _⟩ := loud heard
      exact ⟨message, sent, tells message sent⟩
  | _ => exact ⟨by simp [Candidate.isNotification], fun _ => ⟨_, rfl, tells _ rfl⟩⟩

theorem outcome_same (candidate : Candidate) (dispatcher other : Dispatcher C M H)
    (registry : other.registry = dispatcher.registry) (observer : other.observer = dispatcher.observer)
    (functional : dispatcher.registry.Functional) :
    outcome nested data candidate other = outcome nested data candidate dispatcher := by
  have agree := agree_same candidate.method?.toList dispatcher other registry observer functional
  exact (outcome_alike nested data candidate _ dispatcher other agree fun name known => by simp [known]).symm

theorem handle_answered (candidate : Candidate) (dispatcher : Dispatcher C M H) :
    (handle nested data candidate dispatcher).value =
      candidate.answered (outcome nested data candidate dispatcher) := by
  cases validated : candidate.request with
  | error error =>
      simp [handle_refused nested dispatcher data candidate error validated, Candidate.answered, outcome, validated,
        Message.ofOutcome]
  | ok request =>
      simp [handle_accepted nested dispatcher data candidate request validated, Candidate.answered, outcome, validated]

theorem messages_each (candidates : List Candidate) (dispatcher : Dispatcher C M H)
    (functional : dispatcher.registry.Functional) :
    messages (Run.turns (handle nested data) candidates dispatcher) =
      candidates.flatMap fun candidate => (candidate.answered (outcome nested data candidate dispatcher)).toList := by
  induction candidates generalizing dispatcher with
  | nil => rfl
  | cons candidate rest ih =>
      obtain ⟨memory, counted⟩ :=
        (handle_quiet nested data candidate dispatcher (dispatcher.registry.functional_quiet functional)).1
      have later := ih { dispatcher.counted with memory } functional
      have same (other : Candidate) :=
        outcome_same nested data other dispatcher { dispatcher.counted with memory } rfl rfl functional
      simp only [same] at later
      simpa [Run.turns, messages, handle_answered, counted] using later

theorem messages_told (candidates : List Candidate) (dispatcher : Dispatcher C M H)
    (functional : dispatcher.registry.Functional) :
    List.Forall₂ Message.Tells (messages (Run.turns (handle nested data) candidates dispatcher))
      ((candidates.filter fun candidate => !candidate.isNotification).map fun candidate =>
        outcome nested data candidate dispatcher) := by
  rw [messages_each nested data candidates dispatcher functional]
  induction candidates with
  | nil => exact .nil
  | cons candidate rest ih =>
      obtain ⟨silent, loud⟩ := handle_told nested data candidate dispatcher
      rw [handle_answered] at silent loud
      cases notified : candidate.isNotification with
      | true => simpa [silent notified, notified] using ih
      | false =>
          obtain ⟨message, sent, tells⟩ := loud notified
          simpa [sent, notified] using And.intro tells ih

theorem handle_identified (members : Members) (request : Request)
    (accepted : Request.ofJson (.obj members) = .ok request) (id : RequestId) (dispatcher other : Dispatcher C M H)
    (registry : other.registry = dispatcher.registry) (observer : other.observer = dispatcher.observer)
    (functional : dispatcher.registry.Functional) :
    (handle nested data (.value (.obj (members.insert "id" id.toJson))) other).value =
      some (.ofOutcome id (outcome nested data (.value (.obj members)) dispatcher)) := by
  have identified : Candidate.request (.value (.obj (members.insert "id" id.toJson))) =
      .ok { request with id := some id } := Request.of_json_identified members request accepted id
  have same := outcome_same nested data (.value (.obj members)) dispatcher other registry observer functional
  have own : Candidate.request (.value (.obj members)) = .ok request := accepted
  rw [handle_accepted nested other data _ _ identified, ← same]
  simp only [outcome, own]
  rfl

theorem process_identified (members : Members) (request : Request)
    (accepted : Request.ofJson (.obj members) = .ok request) (id : RequestId) (dispatcher other : Dispatcher C M H)
    (registry : other.registry = dispatcher.registry) (observer : other.observer = dispatcher.observer)
    (functional : dispatcher.registry.Functional) :
    let identified : Json := .obj (members.insert "id" id.toJson)
    let message : Message := .ofOutcome id (outcome (callback depth) data (.value (.obj members)) dispatcher)
    (process depth identified data other).value = .single message ∧
      ∀ before after, ∃ earlier later,
        (process depth (.arr (before ++ identified :: after)) data other).value = .batch (earlier ++ message :: later) ∧
          earlier.length = (answered before).length := by
  intro identified message
  have handled := handle_identified (callback depth) data members request accepted id dispatcher
  constructor
  · have sent := handled other registry observer functional
    simp only [process, processWith, identified, process_one_handle, Run.bind_apply, Run.pure_apply, sent]
    rfl
  · intro before after
    obtain ⟨memory, reached⟩ := turns_quiet (callback depth) data (before.map .value) other
      (other.registry.functional_quiet (registry ▸ functional))
    let earlier := Run.turns (handle (callback depth) data) (before.map .value) other
    let start := Turn.last earlier other
    let here := handle (callback depth) data (.value identified) start
    let later := Run.turns (handle (callback depth) data) (after.map .value) here.dispatcher
    have startRegistry : start.registry = dispatcher.registry := (congrArg Dispatcher.registry reached).trans registry
    have startObserver : start.observer = dispatcher.observer := (congrArg Dispatcher.observer reached).trans observer
    have sent : here.value = some message := handled start startRegistry startObserver functional
    have answer : (process depth (.arr (before ++ identified :: after)) data other).value =
        .ofMessages (messages (earlier ++ ⟨.value identified, start, here⟩ :: later)) := by
      have listed := list_answer (callback depth) data (before ++ identified :: after) (by simp) other
      rwa [List.map_append, List.map_cons, Run.turns_append] at listed
    have split : messages (earlier ++ ⟨.value identified, start, here⟩ :: later) =
        messages earlier ++ message :: messages later := by
      simp [messages, sent]
    refine ⟨messages earlier, messages later, ?_, ?_⟩
    · rw [answer, split]
      simp [Answer.ofMessages]
    · exact (messages_addressed (callback depth) data before other).length_eq

theorem dispatch_reports (input : Input) (dispatcher : Dispatcher C M H) (functional : dispatcher.registry.Functional) :
    let blocks := input.candidates.map fun candidate => block data dispatcher.registry candidate
      (outcome (callback depth) data candidate dispatcher)
    Trace.hookCalls (dispatch depth input data dispatcher).trace =
      Trace.told dispatcher.observer (blocks.flatMap Block.calls) := by
  intro blocks
  obtain ⟨told, calls, reports⟩ :=
    dispatch_blocks depth input data dispatcher (dispatcher.registry.functional_quiet functional)
  rw [List.forall₂_map_left_iff] at reports
  have same : told = blocks := by
    rw [← List.forall₂_eq_eq_eq, List.forall₂_map_right_iff]
    refine reports.flip.imp fun told candidate report => ?_
    obtain ⟨other, registry, observer, rfl⟩ := report
    exact congrArg (block data dispatcher.registry candidate)
      (outcome_same (callback depth) data candidate dispatcher other registry observer functional)
  rw [calls, same]

theorem outcomes_each (input : Input) (dispatcher : Dispatcher C M H) (observer : H)
    (observed : dispatcher.observer = some observer) (functional : dispatcher.registry.Functional) :
    Trace.outcomes (dispatch depth input data dispatcher).trace =
      input.candidates.map fun candidate => outcome (callback depth) data candidate dispatcher := by
  have calls := dispatch_reports depth data input dispatcher functional
  rw [observed] at calls
  rw [Trace.outcomes_told _ observer _ calls, List.map_map]
  exact List.map_congr_left fun candidate _ => block_outcome data dispatcher.registry candidate _

/-- The outcomes that an observer is told of are those that the caller is sent, in the same order, but for the
notifications. Theirs are what they would be answered with under any identifier. -/
theorem outcomes_told_are_sent (input : Input) (dispatcher : Dispatcher C M H) (observer : H)
    (observed : dispatcher.observer = some observer) (functional : dispatcher.registry.Functional) :
    let step := dispatch depth input data dispatcher
    let outcomes := Trace.outcomes step.trace
    let reports := input.candidates.zip outcomes
    outcomes.length = input.candidates.length ∧
    Trace.hookCalls step.trace = Trace.told (some observer)
      (reports.flatMap fun report => (block data dispatcher.registry report.1 report.2).calls) ∧
    List.Forall₂ Message.Tells step.value.messages
      ((reports.filter fun report => !report.1.isNotification).map Prod.snd) ∧
    ∀ report ∈ reports, report.1.isNotification = true → ∃ members : Members, report.1 = .value (.obj members) ∧
      ∀ (id : RequestId) (other : Dispatcher C M H),
        other.registry = dispatcher.registry → other.observer = dispatcher.observer →
        let identified : Json := .obj (members.insert "id" id.toJson)
        let message : Message := .ofOutcome id report.2
        (process depth identified data other).value = .single message ∧
          ∀ before after, ∃ earlier later,
            (process depth (.arr (before ++ identified :: after)) data other).value =
                .batch (earlier ++ message :: later) ∧
              earlier.length = (answered before).length := by
  intro step outcomes reports
  have calls := dispatch_reports depth data input dispatcher functional
  rw [observed] at calls
  have each : outcomes = input.candidates.map fun candidate =>
      outcome (callback depth) data candidate dispatcher :=
    outcomes_each depth data input dispatcher observer observed functional
  have paired : reports = input.candidates.map fun candidate =>
      (candidate, outcome (callback depth) data candidate dispatcher) := by
    rw [List.map_prod_left_eq_zip, ← each]
  refine ⟨?_, ?_, ?_, ?_⟩
  · rw [each, List.length_map]
  · rw [paired, List.flatMap_map]
    simpa [step, List.flatMap_map] using calls
  · have told := messages_told (callback depth) data input.candidates dispatcher functional
    rw [← answer_messages (callback depth) data input dispatcher] at told
    simpa [step, dispatch, paired, List.filter_map, Function.comp_def] using told
  · intro report taken notified
    rw [paired] at taken
    obtain ⟨candidate, _, rfl⟩ := List.mem_map.mp taken
    obtain ⟨members, request, rfl, accepted⟩ := candidate.notification_accepted notified
    exact ⟨members, rfl, fun id other registry observer =>
      process_identified depth data members request accepted id dispatcher other registry observer functional⟩

theorem echoed_notification_told :
    let member (value : Bool) : Members :=
      [("jsonrpc", .str "2.0"), ("method", .str "echo"), ("params", .arr [.bool value])]
    let entries : List Json := [.obj (member true), .null, .obj (("id", .str "a") :: member false)]
    let step := dispatch 1 (.document (.arr entries)) () echoing
    let refused : RpcError := .invalidRequest "Not a JSON-RPC 2.0 request"
    echoing.observer = some () ∧ echoing.registry.Functional ∧
      Trace.outcomes step.trace = [.ok (.arr [.bool true]), .error refused, .ok (.arr [.bool false])] ∧
      List.Forall₂ Message.Tells step.value.messages [.error refused, .ok (.arr [.bool false])] ∧
      (process 1 (.obj (("id", .null) :: member true)) () echoing).value =
        .single (.success .null (.arr [.bool true])) := by
  intro member entries step refused
  have told : Trace.outcomes step.trace = [.ok (.arr [.bool true]), .error refused, .ok (.arr [.bool false])] :=
    outcomes_each 1 () (.document (.arr entries)) echoing () rfl echoing_functional
  obtain ⟨_, _, sent, notified⟩ :=
    outcomes_told_are_sent 1 () (.document (.arr entries)) echoing () rfl echoing_functional
  rw [told] at sent notified
  obtain ⟨members, object, answered⟩ :=
    notified (.value (.obj (member true)), .ok (.arr [.bool true])) (List.mem_cons_self ..) rfl
  cases object
  exact ⟨rfl, echoing_functional, told, sent, (answered .null echoing rfl rfl).1⟩

end Dispatcher

end JsonRpc
