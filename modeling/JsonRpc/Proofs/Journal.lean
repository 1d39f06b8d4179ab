import JsonRpc.Proofs.History
import JsonRpc.Proofs.NumberText
import JsonRpc.Proofs.Quoting

set_option autoImplicit false

namespace JsonRpc

variable {C M H : Type} (depth : Nat)

structure Line where
  spans : List Log.Span
  record : Log.Record

namespace Line

def within (sequence : UInt64) (lines : List Line) : List Line :=
  let span : Log.Span :=
    ⟨.debug, "turul_json_rpc_dispatcher::dispatch", "jsonrpc_request", [⟨"seq", toString sequence.toNat⟩]⟩
  lines.map fun line => { line with spans := span :: line.spans }

def ofRegistry (level : Log.Level) (message : String) (fields : List Log.Field) : Line :=
  ⟨[], ⟨level, "turul_json_rpc_dispatcher::registry", message, fields⟩⟩

def ofDispatch (level : Log.Level) (message : String) (fields : List Log.Field) : Line :=
  ⟨[], ⟨level, "turul_json_rpc_dispatcher::dispatch", message, fields⟩⟩

def registered (name : String) (added : Bool) : Line :=
  if added then ofRegistry .debug "Registered JSON-RPC method" [⟨"method", name⟩]
  else ofRegistry .warn "Ignoring duplicate registration of JSON-RPC method" [⟨"method", name⟩]

def batch (length : Nat) : Line := ofDispatch .debug "Processing JSON-RPC batch" [⟨"entries", toString length⟩]

def rejected (error : RpcError) : Line :=
  ofDispatch .warn "Rejected malformed JSON-RPC request" [⟨"code", toString error.code.toInt⟩, ⟨"error", error.message⟩]

def invalid (error : RpcError) : Line :=
  ofDispatch .debug "Invalid JSON-RPC request" [⟨"code", toString error.code.toInt⟩, ⟨"error", error.message⟩]

def givenId : RequestId → String
  | .string value => "String(" ++ Text.quote value ++ ")"
  | .number value => "Number(Number(" ++ value.text ++ "))"
  | .null => "Null"

inductive GivenId : RequestId → String → Prop
  | string (value text : String) (quoted : Quoted Text.Shown value text) :
      GivenId (.string value) ("String(" ++ text ++ ")")
  | number (value : Number) (text : String) (written : value.Written text) :
      GivenId (.number value) ("Number(Number(" ++ text ++ "))")
  | null : GivenId .null "Null"

theorem given_id_iff (id : RequestId) (text : String) : GivenId id text ↔ text = givenId id := by
  constructor
  · intro given
    cases given with
    | string value quoted shown => rw [givenId, (Text.quote_iff value quoted).mp shown]
    | number value digits written => rw [givenId, (value.written_iff digits).mp written]
    | null => rfl
  · intro same
    rw [same]
    cases id with
    | string value => exact .string value _ ((Text.quote_iff value _).mpr rfl)
    | number value => exact .number value _ ((value.written_iff _).mpr rfl)
    | null => exact .null

def idText : Option RequestId → String
  | none => "None"
  | some id => "Some(" ++ givenId id ++ ")"

def dispatching (request : Request) : Line :=
  ofDispatch .debug "Dispatching JSON-RPC request" [⟨"method", request.method⟩, ⟨"id", idText request.id⟩]

def failed (method : String) (error : RpcError) : Line :=
  ofDispatch .debug "JSON-RPC request failed"
    [⟨"method", method⟩, ⟨"code", toString error.code.toInt⟩, ⟨"error", error.message⟩]

def unanswered (method : String) : Line :=
  ofDispatch .debug "Notification processed, no response" [⟨"method", method⟩]

end Line

def Entry.line? (entry : Entry C H) : Option Line :=
  match entry.event with
  | .notice notice =>
      if notice.record.level.verbosity ≤ Log.Level.debug.verbosity then
        some ⟨entry.spans.map requestSpan, notice.record⟩
      else none
  | _ => none

theorem Notice.recorded (notice : Notice) : notice.record.level.verbosity ≤ Log.Level.debug.verbosity := by
  cases notice <;> simp [record, Log.Level.verbosity]

namespace Trace

def lines (trace : List (Entry C H)) : List Line := trace.filterMap Entry.line?

@[simp] theorem lines_nil : lines ([] : List (Entry C H)) = [] := rfl

@[simp] theorem lines_append (first second : List (Entry C H)) :
    lines (first ++ second) = lines first ++ lines second := List.filterMap_append

@[simp] theorem lines_within (sequence : UInt64) (trace : List (Entry C H)) :
    lines (trace.map (Entry.within sequence)) = Line.within sequence (lines trace) := by
  have alike (entry : Entry C H) : (entry.within sequence).line? =
      entry.line?.map fun line => { line with spans := requestSpan sequence :: line.spans } := by
    obtain ⟨spans, event⟩ := entry
    cases event with
    | notice notice => by_cases recorded : notice.record.level.verbosity ≤ Log.Level.debug.verbosity <;>
        simp [Entry.within, Entry.line?, recorded]
    | _ => rfl
  simp only [lines, List.filterMap_map, Function.comp_def, alike, Line.within, List.map_filterMap]
  rfl

@[simp] theorem lines_report (dispatcher : Dispatcher C M H) (call : HookCall C) :
    lines (dispatcher.report call) = [] := by
  cases present : dispatcher.observer <;> simp [Dispatcher.report, present, lines, Entry.line?]

@[simp] theorem lines_log (record : Log.Record) (rest : List (Entry C H)) :
    lines (⟨[], .log record⟩ :: rest) = lines rest := rfl

@[simp] theorem lines_entered (method : String) (context : Option (Context C)) (arguments : List Json)
    (rest : List (Entry C H)) : lines (⟨[], .entered method context arguments⟩ :: rest) = lines rest := rfl

@[simp] theorem lines_notices (notices : List Notice) :
    lines (ofNotices notices : List (Entry C H)) = notices.map fun notice => ⟨[], notice.record⟩ := by
  simp [lines, ofNotices, List.filterMap_map, Function.comp_def, Entry.line?, Notice.recorded]

theorem lines_flat_map {ι : Type} (items : List ι) (part : ι → List (Entry C H)) :
    lines (items.flatMap part) = items.flatMap fun item => lines (part item) := by
  simp [lines, List.filterMap_flatMap]

end Trace

namespace Dispatcher

def batchLines : Option Json → List Line
  | some (.arr (first :: rest)) => [.batch (first :: rest).length]
  | _ => []

section

variable (nested : String → C → Run C M H Answer)

-- Of a body only the registrations and the dispatches that it makes are logged.
def bodyLines : Action C M → Dispatcher C M H → List Line
  | .finish _, _ => []
  | .log _ next, dispatcher => bodyLines next dispatcher
  | .remember update next, dispatcher =>
      bodyLines (next dispatcher.memory) { dispatcher with memory := update dispatcher.memory }
  | .dispatch text data next, dispatcher =>
      let answered := nested text data dispatcher
      Trace.lines answered.trace ++ bodyLines (next answered.value) answered.dispatcher
  | .register name method next, dispatcher =>
      let added := add name method dispatcher
      .registered name added.value :: bodyLines (next added.value) added.dispatcher

def invokeLines (request : Request) (context : Context C) (dispatcher : Dispatcher C M H) : List Line :=
  match dispatcher.registry.lookup request.method with
  | none => []
  | some method =>
      match method.marshal context request.params with
      | .error _ => []
      | .ok (_, action) => bodyLines nested action dispatcher

def failureLines (method : String) : Except RpcError Json → List Line
  | .ok _ => []
  | .error error => [.failed method error]

def acceptedLines (data : C) (request : Request) (outcome : Except RpcError Json) (dispatcher : Dispatcher C M H) :
    List Line :=
  [.dispatching request] ++ invokeLines nested request (request.context data) dispatcher ++
    failureLines request.method outcome ++ if request.id = none then [.unanswered request.method] else []

def candidateLines (data : C) (dispatcher : Dispatcher C M H) : Candidate → List Line
  | .unreadable _ error => [.rejected (.parseError error.message)]
  | .emptyBatch => [.rejected (.invalidRequest "Empty batch request")]
  | .value raw =>
      if raw.isObject then
        match Request.ofJson raw with
        | .error error => [.invalid error]
        | .ok request =>
            acceptedLines nested data request (outcome nested data (.value raw) dispatcher) dispatcher.counted
      else [.rejected (.invalidRequest "Not a JSON-RPC 2.0 request")]

def inputLines (input : Input) (data : C) (dispatcher : Dispatcher C M H) : List Line :=
  batchLines input.document? ++ (Run.turns (handle nested data) input.candidates dispatcher).flatMap fun turn =>
    Line.within turn.start.requestsSeen (candidateLines nested data turn.start turn.item)

end

end Dispatcher

def Operation.lines (dispatcher : Dispatcher C M H) : Operation C M → List Line
  | .register name method => [.registered name (Dispatcher.add name method dispatcher).value]
  | .dispatch input data =>
      Dispatcher.inputLines (Dispatcher.callback depth) input data dispatcher

namespace Dispatcher

variable (nested : String → C → Run C M H Answer)

theorem add_logged (name : String) (method : Method C M) (dispatcher : Dispatcher C M H) :
    Trace.lines (add name method dispatcher).trace = [.registered name (add name method dispatcher).value] := by
  have noted : Trace.lines (add name method dispatcher).trace =
      [⟨[], (Notice.ofRegistration name (add name method dispatcher).value).record⟩] := Trace.lines_notices [_]
  rw [noted]
  cases (add name method dispatcher).value <;> rfl

theorem body_logged (action : Action C M) (dispatcher : Dispatcher C M H) :
    Trace.lines (Run.perform nested action dispatcher).trace = bodyLines nested action dispatcher := by
  cases action with
  | finish outcome => rfl
  | log record next => exact body_logged next dispatcher
  | remember update next => exact body_logged (next dispatcher.memory) _
  | dispatch text data next =>
      have rest := body_logged (next (nested text data dispatcher).value)
        (nested text data dispatcher).dispatcher
      rw [bodyLines, ← rest]
      exact Trace.lines_append ..
  | register name method next =>
      have rest := body_logged (next (add name method dispatcher).value)
        (add name method dispatcher).dispatcher
      rw [bodyLines, ← List.singleton_append, ← add_logged name method dispatcher, ← rest]
      exact Trace.lines_append ..

theorem invoke_logged (request : Request) (context : Context C)
    (dispatcher : Dispatcher C M H) :
    Trace.lines (invoke nested request context dispatcher).trace =
      invokeLines nested request context dispatcher := by
  apply invoke_cases nested dispatcher request context fun step =>
    Trace.lines step.trace = invokeLines nested request context dispatcher
  · intro unknown
    simp [invokeLines, unknown]
  · intro method misfit registered unfit
    simp [invokeLines, registered, unfit]
  · intro method arguments action registered fits
    simp [invokeLines, registered, fits, body_logged nested action dispatcher]

theorem refused_logged (data : C) (candidate : Candidate) (dispatcher : Dispatcher C M H) (error : RpcError)
    (refused : candidate.request = .error error) :
    candidateLines nested data dispatcher candidate = [⟨[], (candidate.complaint error).record⟩] := by
  cases candidate with
  | unreadable text reason => cases refused; rfl
  | emptyBatch => cases refused; rfl
  | value raw =>
      have own : Request.ofJson raw = .error error := refused
      cases raw with
      | obj members =>
          rw [candidateLines, own]
          rfl
      | _ => cases own; rfl

theorem accepted_logged (data : C) (raw : Json) (dispatcher : Dispatcher C M H) (request : Request)
    (accepted : Request.ofJson raw = .ok request) :
    candidateLines nested data dispatcher (.value raw) =
      acceptedLines nested data request
        (invoke nested request (request.context data) dispatcher.counted).value dispatcher.counted := by
  obtain ⟨members, _, _, rfl, _⟩ := Request.of_json_accepted raw request accepted
  have reached : outcome nested data (.value (.obj members)) dispatcher =
      (invoke nested request (request.context data) dispatcher.counted).value := by
    simp [outcome, Candidate.request, accepted]
  simp only [candidateLines, Json.isObject, if_true, accepted, reached]

theorem dispatching_logged (request : Request) :
    ([Notice.dispatching request.method request.id].map fun notice => (⟨[], notice.record⟩ : Line)) =
      [.dispatching request] := by
  have text : Notice.idText request.id = Line.idText request.id := by
    cases request.id with
    | none => rfl
    | some id => cases id <;> rfl
  rw [Line.dispatching, ← text]
  rfl

theorem failure_logged (method : String) (outcome : Except RpcError Json) :
    ((failureNotices method outcome).map fun notice => (⟨[], notice.record⟩ : Line)) = failureLines method outcome := by
  cases outcome <;> rfl

theorem silence_logged (request : Request) :
    ((silenceNotices request).map fun notice => (⟨[], notice.record⟩ : Line)) =
      if request.id = none then [.unanswered request.method] else [] := by
  cases present : request.id with
  | none => simp only [silenceNotices, Request.isNotification, present, Option.isNone_none, if_true]; rfl
  | some id => simp [silenceNotices, Request.isNotification, present]

theorem handle_logged (data : C) (candidate : Candidate)
    (dispatcher : Dispatcher C M H) :
    Trace.lines (handle nested data candidate dispatcher).trace =
      Line.within dispatcher.requestsSeen (candidateLines nested data dispatcher candidate) := by
  cases validated : candidate.request with
  | error error =>
      rw [handle_refused nested dispatcher data candidate error validated, Trace.lines_within,
        refused_logged nested data candidate dispatcher error validated]
      simp [requestsSeen]
  | ok request =>
      obtain ⟨members, rfl, valid⟩ := candidate.accepted_object request validated
      have invoked := invoke_logged nested request (request.context data) dispatcher.counted
      rw [handle_accepted nested dispatcher data _ request validated, Trace.lines_within,
        accepted_logged nested data _ dispatcher request valid]
      simp only [Trace.lines_append, Trace.lines_report, Trace.lines_notices, invoked, dispatching_logged,
        failure_logged, silence_logged, List.nil_append, List.append_nil]
      rfl

theorem announcement_logged (document? : Option Json) :
    Trace.lines (announcement document? : List (Entry C H)) = batchLines document? := by
  cases document? with
  | none => rfl
  | some document =>
      cases document with
      | arr entries =>
          cases entries with
          | nil => rfl
          | cons first rest => exact Trace.lines_notices [_]
      | _ => rfl

theorem turns_logged (data : C) (candidates : List Candidate)
    (dispatcher : Dispatcher C M H) :
    let turns := Run.turns (handle nested data) candidates dispatcher
    Trace.lines (traces turns) = turns.flatMap fun turn =>
      Line.within turn.start.requestsSeen (candidateLines nested data turn.start turn.item) := by
  intro turns
  rw [traces, Trace.lines_flat_map]
  refine List.flatMap_congr fun turn taken => ?_
  rw [Run.turns_step (handle nested data) candidates dispatcher turn taken]
  exact handle_logged nested data turn.item turn.start

theorem dispatch_with_logged (input : Input) (data : C) (dispatcher : Dispatcher C M H) :
    Trace.lines (dispatchWith nested input data dispatcher).trace = inputLines nested input data dispatcher := by
  rw [dispatch_with_turns, inputLines, ← turns_logged nested data input.candidates dispatcher,
    ← announcement_logged (C := C) (H := H)]
  exact Trace.lines_append ..

theorem quiet_body_lines (action : Action C M) (quiet : action.Quiet) (dispatcher : Dispatcher C M H) :
    bodyLines nested action dispatcher = [] := by
  cases action with
  | finish outcome => rfl
  | log record next => exact quiet_body_lines next quiet dispatcher
  | remember update next => exact quiet_body_lines (next dispatcher.memory) (quiet dispatcher.memory) _
  | dispatch text data next => exact False.elim quiet
  | register name method next => exact False.elim quiet

end Dispatcher

theorem Operation.run_logged (operation : Operation C M) (dispatcher : Dispatcher C M H) :
    Trace.lines (operation.run depth dispatcher).trace = operation.lines depth dispatcher := by
  cases operation with
  | register name method => exact Dispatcher.add_logged name method dispatcher
  | dispatch input data =>
      exact Dispatcher.dispatch_with_logged (Dispatcher.callback depth) input data dispatcher

theorem history_turns (operations : List (Operation C M)) (dispatcher : Dispatcher C M H) :
    let turns := Run.turns (Operation.run depth) operations dispatcher
    (history depth operations dispatcher).value = (turns.map fun turn => turn.step.value) ∧
      (history depth operations dispatcher).trace = Dispatcher.traces turns := by
  induction operations generalizing dispatcher with
  | nil => exact ⟨rfl, rfl⟩
  | cons operation rest ih =>
      obtain ⟨replies, trace⟩ := ih (operation.run depth dispatcher).dispatcher
      exact ⟨congrArg ((operation.run depth dispatcher).value :: ·) replies,
        congrArg ((operation.run depth dispatcher).trace ++ ·) trace⟩

/-- Where DEBUG and all above it is recorded, the log of a history has the lines that its operations call for, in
their order, and no others, apart from what handlers log themselves. The line for a registration tells what it
replied. A handler calls for lines only if it registers methods or dispatches in its turn. -/
theorem history_logged (operations : List (Operation C M)) (dispatcher : Dispatcher C M H) :
    let turns := Run.turns (Operation.run depth) operations dispatcher
    Trace.lines (history depth operations dispatcher).trace =
        (turns.flatMap fun turn => turn.item.lines depth turn.start) ∧
      (history depth operations dispatcher).value = (turns.map fun turn => turn.step.value) ∧
      (∀ turn ∈ turns, ∀ name method, turn.item = .register name method →
        ∃ added, turn.step.value = .registered added ∧ turn.item.lines depth turn.start = [.registered name added]) ∧
      (∀ action : Action C M, action.Quiet → ∀ nested (current : Dispatcher C M H),
        Dispatcher.bodyLines nested action current = []) ∧
      (∀ inside text data (current : Dispatcher C M H),
        Trace.lines (Dispatcher.callback (inside + 1) text data current).trace =
          Dispatcher.inputLines (Dispatcher.callback inside) (.text text) data current) ∧
      ∀ id text, Line.GivenId id text ↔ text = Line.givenId id := by
  intro turns
  have steps (turn : Turn (Operation C M) C M H Reply) (taken : turn ∈ turns) :
      turn.step = turn.item.run depth turn.start :=
    Run.turns_step (Operation.run depth) operations dispatcher turn taken
  obtain ⟨replies, trace⟩ := history_turns depth operations dispatcher
  refine ⟨?_, replies, ?_, ?_, ?_, Line.given_id_iff⟩
  · rw [trace, Dispatcher.traces, Trace.lines_flat_map]
    refine List.flatMap_congr fun turn taken => ?_
    rw [steps turn taken]
    exact turn.item.run_logged depth turn.start
  · intro turn taken name method registers
    rw [steps turn taken, registers]
    exact ⟨_, rfl, rfl⟩
  · exact fun action quiet nested current => Dispatcher.quiet_body_lines nested action quiet current
  · exact fun inside text data current => Dispatcher.dispatch_with_logged _ (.text text) data current

-- A failed notification is reported twice.
example :
    let call : Json := .obj [("jsonrpc", .str "2.0"), ("method", .str "gone")]
    (Operation.dispatch (.document (.arr [call, .null])) ()).lines 0 Dispatcher.echoing =
      [.batch 2] ++ Line.within 0
          [.dispatching ⟨"gone", [], none, []⟩, .failed "gone" .methodNotFound, .unanswered "gone"] ++
        Line.within 1 [.rejected (.invalidRequest "Not a JSON-RPC 2.0 request")] := by
  rfl

end JsonRpc
