import JsonRpc.Proofs.Passage
import JsonRpc.Proofs.Performance

set_option autoImplicit false

namespace JsonRpc

variable {C M H : Type} (depth : Nat)

structure Reaches (data : C) (registry : Registry C M) (candidate : Candidate) (request : Request)
    (method : Method C M) : Prop where
  object : ∃ members, candidate = .value (.obj members)
  accepted : candidate.request = .ok request
  registered : registry.lookup request.method = some method
  fits : method.Marshals (request.context data) request.params

-- The error tells the first stage that the candidate does not get past. What a refusal says depends on the
-- candidate alone.
structure NamesStage (registry : Registry C M) (candidate : Candidate) (error : RpcError) : Prop where
  bare : error.data = none
  unreadable : error.code = ErrorCode.parseError.code ↔ ∃ text reason, candidate = .unreadable text reason
  noObject : candidate = .emptyBatch ∨ (∃ raw, candidate = .value raw ∧ raw.isObject = false) →
    error.code = ErrorCode.invalidRequest.code
  invalid : ∀ raw refusal, candidate = .value raw → Request.ofJson raw = .error refusal →
    error = refusal ∧ (error.code = ErrorCode.invalidRequest.code ∨ error.code = ErrorCode.invalidParams.code)
  unknown : error.code = ErrorCode.methodNotFound.code ↔
    ∃ request, candidate.request = .ok request ∧ registry.lookup request.method = none
  unfit : ∀ request method, candidate.request = .ok request → registry.lookup request.method = some method →
    error.code = ErrorCode.invalidParams.code

@[simp] theorem ErrorCode.code_inj (kind other : ErrorCode) : kind.code = other.code ↔ kind = other := by
  refine ⟨fun same => ?_, fun same => by rw [same]⟩
  have known := of_code_code kind
  rw [same, of_code_code other] at known
  exact (Option.some.inj known).symm

theorem refused_names_stage (registry : Registry C M) (candidate : Candidate) (error : RpcError)
    (refused : candidate.request = .error error) : NamesStage registry candidate error := by
  have notAccepted (request : Request) : candidate.request ≠ .ok request := by simp [refused]
  cases candidate with
  | unreadable text reason =>
      cases refused
      constructor <;> simp [RpcError.parseError, notAccepted]
  | emptyBatch =>
      cases refused
      constructor <;> simp [RpcError.invalidRequest, notAccepted]
  | value raw =>
      have own : Request.ofJson raw = .error error := refused
      have bareCode : error.data = none ∧
          (error.code = ErrorCode.invalidRequest.code ∨ error.code = ErrorCode.invalidParams.code) := by
        rcases Request.of_json_refused raw error own with ⟨message, rfl⟩ | ⟨message, rfl⟩
        · exact ⟨rfl, .inl rfl⟩
        · exact ⟨rfl, .inr rfl⟩
      obtain ⟨bare, code⟩ := bareCode
      refine ⟨bare, ?_, ?_, ?_, ?_, fun request _ accepted => absurd accepted (notAccepted request)⟩
      · rcases code with code | code <;> simp [code]
      · rintro (⟨⟨⟩⟩ | ⟨_, ⟨⟩, scalar⟩)
        rw [Request.no_object_refused raw scalar] at own
        cases own
        rfl
      · rintro _ refusal ⟨⟩ refused
        rw [own] at refused
        cases refused
        exact ⟨rfl, code⟩
      · rcases code with code | code <;> simp [code, notAccepted]

theorem accepted_names_stage (registry : Registry C M) (candidate : Candidate) (request : Request) (error : RpcError)
    (accepted : candidate.request = .ok request) (bare : error.data = none)
    (code : error.code = if registry.contains request.method then ErrorCode.invalidParams.code
      else ErrorCode.methodNotFound.code) : NamesStage registry candidate error := by
  obtain ⟨members, rfl, valid⟩ := candidate.accepted_object request accepted
  have only (other : Request) : (Candidate.value (.obj members)).request = .ok other ↔ request = other := by
    rw [accepted, Except.ok.injEq]
  refine ⟨bare, ?_, ?_, ?_, ?_, ?_⟩
  · rw [code]
    split <;> simp
  · simp [Json.isObject]
  · rintro _ refusal ⟨⟩ refused
    rw [valid] at refused
    cases refused
  · simp only [only, exists_eq_left', code]
    cases registered : registry.lookup request.method <;> simp [Registry.contains, registered]
  · intro other method same registered
    cases (only other).mp same
    simp [code, Registry.contains, registered]

theorem NamesStage.not_internal (registry : Registry C M) (candidate : Candidate) (error : RpcError)
    (stage : NamesStage registry candidate error) : error.code ≠ ErrorCode.internalError.code := by
  cases validated : candidate.request with
  | ok request =>
      cases registered : registry.lookup request.method with
      | none => simp [stage.unknown.mpr ⟨request, validated, registered⟩]
      | some method => simp [stage.unfit request method validated registered]
  | error refusal =>
      cases candidate with
      | unreadable text reason => simp [stage.unreadable.mpr ⟨text, reason, rfl⟩]
      | emptyBatch => simp [stage.noObject (.inl rfl)]
      | value raw =>
          rcases (stage.invalid raw refusal rfl validated).2 with code | code
          · simp [code]
          · simp [code]

namespace Dispatcher

variable (nested : String → C → Run C M H Answer) (data : C)

-- The bodies that the requests themselves lead to; not those that run because a body calls back.
def directBodies (trace : List (Entry C H)) : List (Body C) := Trace.bodies (Trace.atDepth 1 trace)

theorem direct_bodies_nil (trace : List (Entry C H)) (none : Trace.bodies trace = []) : directBodies trace = [] :=
  List.filterMap_eq_nil_iff.mpr fun entry within =>
    List.filterMap_eq_nil_iff.mp none entry (List.mem_of_mem_filter within)

theorem refused_bodies (candidate : Candidate) (dispatcher : Dispatcher C M H) (error : RpcError)
    (refused : candidate.request = .error error) :
    Trace.bodies (handle nested data candidate dispatcher).trace = [] := by
  simp [handle_refused nested dispatcher data candidate error refused]

theorem accepted_bodies (candidate : Candidate) (dispatcher : Dispatcher C M H) (request : Request)
    (accepted : candidate.request = .ok request) :
    let handled := handle nested data candidate dispatcher
    let invoked := invoke nested request (request.context data) dispatcher.counted
    Trace.bodies handled.trace = Trace.bodies invoked.trace ∧
      directBodies handled.trace = Trace.bodies (Trace.atDepth 0 invoked.trace) := by
  simp [handle_accepted nested dispatcher data candidate request accepted, directBodies]

-- What is done for a request whose body runs: the body's own effects, once, amid what the observer and the log are
-- told of the request.
def served (candidate : Candidate) (request : Request) (body : Body C) (performed : Step C M H Outcome)
    (start : Dispatcher C M H) : Step C M H (Option Message) :=
  let context := request.context data
  let outcome := classify performed.value
  let entered : Entry C H := ⟨[], .entered body.method body.context body.arguments⟩
  ⟨request.id.map fun id => .ofOutcome id outcome, performed.dispatcher,
    (start.report (.beforeRequest candidate.raw (Context.ofCaller data)) ++
      Trace.ofNotices [.dispatching request.method request.id] ++
      (start.report (.beforeInvoke request.method context) ++ entered :: performed.trace) ++
      Trace.ofNotices (failureNotices request.method outcome) ++
      performed.dispatcher.report (.afterRequest request.method outcome context) ++
      Trace.ofNotices (silenceNotices request)).map (Entry.within start.sequence)⟩

theorem reached_body (hidden : ∀ text data, (nested text data).Hidden) (candidate : Candidate)
    (dispatcher : Dispatcher C M H) (request : Request) (method : Method C M)
    (reaches : Reaches data dispatcher.registry candidate request method) :
    ∃ (arguments : Arguments) (action : Action C M) (performed : Step C M H Outcome),
      let body : Body C := ⟨request.method, given method (request.context data), arguments.values⟩
      method.marshal (request.context data) request.params = .ok (arguments, action) ∧
        action.Performs nested dispatcher.counted performed ∧
        directBodies (handle nested data candidate dispatcher).trace = [body] ∧
        outcome nested data candidate dispatcher = classify performed.value ∧
        handle nested data candidate dispatcher = served data candidate request body performed dispatcher := by
  obtain ⟨arguments, action, fits⟩ := reaches.fits
  have invoked := invoke_runs nested dispatcher.counted request (request.context data) method arguments action
    reaches.registered fits
  have inner := (Run.perform_hidden nested hidden action dispatcher.counted).2
  refine ⟨arguments, action, Run.perform nested action dispatcher.counted, fits, action.performs_perform nested _,
    ?_, ?_, ?_⟩
  · rw [(accepted_bodies nested data candidate dispatcher request reaches.accepted).2, invoked]
    simp [inner]
  · simp [outcome, reaches.accepted, invoked]
  · simp [handle_accepted nested dispatcher data candidate request reaches.accepted, invoked, served]

theorem unreached_error (candidate : Candidate) (dispatcher : Dispatcher C M H)
    (unreached : ∀ request method, ¬ Reaches data dispatcher.registry candidate request method) :
    Trace.bodies (handle nested data candidate dispatcher).trace = [] ∧
      (handle nested data candidate dispatcher).dispatcher = dispatcher.counted ∧
      ∃ error, outcome nested data candidate dispatcher = .error error ∧
        NamesStage dispatcher.registry candidate error := by
  cases passage data dispatcher.registry candidate with
  | refused error refused =>
      refine ⟨refused_bodies nested data candidate dispatcher error refused, ?_, error, ?_, ?_⟩
      · rw [handle_refused nested dispatcher data candidate error refused]
      · simp [outcome, refused]
      · exact refused_names_stage dispatcher.registry candidate error refused
  | unknown request accepted unknown =>
      have invoked := invoke_unknown nested dispatcher.counted request (request.context data) unknown
      refine ⟨?_, ?_, .methodNotFound, outcome_unknown nested data candidate dispatcher request accepted unknown, ?_⟩
      · rw [(accepted_bodies nested data candidate dispatcher request accepted).1, invoked]
        simp
      · simp [handle_accepted nested dispatcher data candidate request accepted, invoked]
      · exact accepted_names_stage dispatcher.registry candidate request _ accepted rfl
          (by simp [Registry.contains, unknown, RpcError.methodNotFound])
  | unfit request method misfit accepted registered unfit =>
      have invoked :=
        invoke_misfit nested dispatcher.counted request (request.context data) method misfit registered unfit
      refine ⟨?_, ?_, misfit.toRpcError,
        outcome_unfit nested data candidate dispatcher request method misfit accepted registered unfit, ?_⟩
      · rw [(accepted_bodies nested data candidate dispatcher request accepted).1, invoked]
        simp
      · simp [handle_accepted nested dispatcher data candidate request accepted, invoked]
      · exact accepted_names_stage dispatcher.registry candidate request _ accepted rfl
          (by simp [Registry.contains, registered, Misfit.toRpcError, RpcError.invalidParams])
  | runs request method arguments action accepted registered fits =>
      obtain ⟨members, object, _⟩ := candidate.accepted_object request accepted
      exact absurd ⟨⟨members, object⟩, accepted, registered, arguments, action, fits⟩ (unreached request method)

theorem direct_bodies_iff (hidden : ∀ text data, (nested text data).Hidden) (candidate : Candidate)
    (dispatcher : Dispatcher C M H) :
    let bodies := directBodies (handle nested data candidate dispatcher).trace
    bodies.length ≤ 1 ∧
      (bodies.length = 1 ↔ ∃ request method, Reaches data dispatcher.registry candidate request method) ∧
      (bodies = [] → Trace.bodies (handle nested data candidate dispatcher).trace = [] ∧
        (handle nested data candidate dispatcher).dispatcher = dispatcher.counted ∧
        ∃ error, outcome nested data candidate dispatcher = .error error ∧
          NamesStage dispatcher.registry candidate error) := by
  intro bodies
  by_cases reached : ∃ request method, Reaches data dispatcher.registry candidate request method
  · obtain ⟨request, method, reaches⟩ := reached
    obtain ⟨arguments, _, _, _, _, one, _⟩ :=
      reached_body nested data hidden candidate dispatcher request method reaches
    have single : bodies = [⟨request.method, given method (request.context data), arguments.values⟩] := one
    rw [single]
    exact ⟨by simp, ⟨fun _ => ⟨request, method, reaches⟩, fun _ => rfl⟩, by simp⟩
  · have failed := unreached_error nested data candidate dispatcher
      fun request method reaches => reached ⟨request, method, reaches⟩
    have none : bodies = [] := direct_bodies_nil _ failed.1
    rw [none]
    exact ⟨by simp, ⟨by simp, fun some => absurd some reached⟩, fun _ => failed⟩

theorem direct_bodies_dispatch (input : Input) (dispatcher : Dispatcher C M H) :
    let turns := Run.turns (handle nested data) input.candidates dispatcher
    directBodies (dispatchWith nested input data dispatcher).trace =
      turns.flatMap fun turn => directBodies turn.step.trace := by
  obtain ⟨notices, announced⟩ := announcement_notices (C := C) (H := H) input.document?
  simp only [dispatch_with_turns, announced, directBodies, Trace.at_depth_append, Trace.at_depth_notices_deep,
    List.nil_append, traces, Trace.at_depth_flat_map, Trace.bodies_flat_map]

theorem quiet_bodies (input : Input) (dispatcher : Dispatcher C M H) (quiet : dispatcher.registry.Quiet) :
    Trace.bodies (dispatchWith nested input data dispatcher).trace =
      directBodies (dispatchWith nested input data dispatcher).trace := by
  obtain ⟨notices, announced⟩ := announcement_notices (C := C) (H := H) input.document?
  rw [direct_bodies_dispatch nested data input dispatcher, dispatch_with_turns]
  simp only [announced, Trace.bodies_append, Trace.bodies_notices, List.nil_append, traces, Trace.bodies_flat_map]
  refine List.flatMap_congr fun turn taken => ?_
  have same := turns_registry nested data input.candidates dispatcher quiet turn taken
  rw [Run.turns_step _ _ _ turn taken, directBodies,
    (handle_quiet nested data turn.item turn.start (same ▸ quiet)).2]

/-- A candidate runs one body if it gets past validation, lookup and marshaling, and none otherwise; its
error then names the first of these that it did not get past. -/
theorem body_runs_or_stage_named (input : Input) (dispatcher : Dispatcher C M H) :
    let nested : String → C → Run C M H Answer := callback depth
    let step := dispatch depth input data dispatcher
    let turns := Run.turns (handle nested data) input.candidates dispatcher
    turns.map Turn.item = input.candidates ∧
    step.value = assemble input.document? (messages turns) ∧
    directBodies step.trace = (turns.flatMap fun turn => directBodies turn.step.trace) ∧
    (dispatcher.registry.Quiet → Trace.bodies step.trace = directBodies step.trace) ∧
    (∀ (method : Method C M) types, method.Takes types →
      ∀ context params, method.Marshals context params ↔ ParamType.Fit types params) ∧
    ∀ turn ∈ turns,
      let registry := turn.start.registry
      let bodies := directBodies turn.step.trace
      let outcome := outcome nested data turn.item turn.start
      (∀ message, turn.step.value = some message → message = .ofOutcome message.id outcome) ∧
      Trace.hookCalls (Trace.atDepth 1 turn.step.trace) =
        Trace.told turn.start.observer (block data registry turn.item outcome).calls ∧
      bodies.length ≤ 1 ∧
      (bodies.length = 1 ↔ ∃ request method, Reaches data registry turn.item request method) ∧
      (∀ request method, Reaches data registry turn.item request method →
        ∃ (arguments : Arguments) (action : Action C M) (performed : Step C M H Outcome),
          let body : Body C := ⟨request.method, given method (request.context data), arguments.values⟩
          method.marshal (request.context data) request.params = .ok (arguments, action) ∧
            action.Performs nested turn.start.counted performed ∧
            bodies = [body] ∧ outcome = classify performed.value ∧
            turn.step = served data turn.item request body performed turn.start) ∧
      (bodies = [] → Trace.bodies turn.step.trace = [] ∧ turn.step.dispatcher = turn.start.counted ∧
        ∃ error, outcome = .error error ∧ NamesStage registry turn.item error) := by
  intro nested step turns
  have discreet : Discreet nested := callback_discreet depth
  refine ⟨Run.turns_items _ _ _, congrArg Step.value (dispatch_with_turns nested input data dispatcher),
    direct_bodies_dispatch nested data input dispatcher, quiet_bodies nested data input dispatcher,
    fun method types takes context params => marshals_iff method types takes context params, ?_⟩
  intro turn taken
  have handled : turn.step = handle nested data turn.item turn.start := Run.turns_step _ _ _ turn taken
  rw [handled]
  obtain ⟨atMost, one, none⟩ := direct_bodies_iff nested data discreet.hidden turn.item turn.start
  exact ⟨handle_message nested data turn.item turn.start, handle_block nested discreet data turn.item turn.start,
    atMost, one, fun request method reaches =>
      reached_body nested data discreet.hidden turn.item turn.start request method reaches, none⟩

def swap : Method Unit Json := .plain [.json] fun (params, ()) => .remember (fun _ => params) fun kept => .succeed kept

def swapping : Dispatcher Unit Json Unit := (add "swap" swap (create (some ()) (.str "kept"))).dispatcher

theorem swapped_body_or_stage :
    let call : Json := .obj [("id", .str "a"), ("jsonrpc", .str "2.0"), ("method", .str "swap"),
      ("params", .arr [.str "new"])]
    let missing : Json := .obj [("jsonrpc", .str "2.0"), ("method", .str "gone")]
    swapping.registry.Quiet ∧
      Trace.bodies (dispatch 1 (.document call) () swapping).trace = [⟨"swap", none, [.arr [.str "new"]]⟩] ∧
      (∃ turn ∈ Run.turns (handle (callback 1) ()) [.value call] swapping,
        (directBodies turn.step.trace).length = 1 ∧ turn.step.dispatcher.memory = .arr [.str "new"] ∧
          turn.step.value = some (.success (.string "a") (.str "kept"))) ∧
      (∃ turn ∈ Run.turns (handle (callback 1) ()) [.value missing] swapping,
        turn.step.dispatcher = swapping.counted ∧ ∃ error,
          outcome (callback 1) () turn.item turn.start = .error error ∧
            error.code = ErrorCode.methodNotFound.code) := by
  intro call missing
  have swaps : swap.Quiet := Method.plain_quiet _ _ fun _ _ => trivial
  have quietRegistry : swapping.registry.Quiet :=
    Registry.quiet_register Registry.empty Registry.quiet_empty "swap" swap swaps
  have reaches : Reaches () swapping.registry (.value call)
      { method := "swap", params := [.str "new"], id := some (.string "a"), extra := [] } swap :=
    ⟨⟨_, rfl⟩, rfl, rfl, _, _, rfl⟩
  obtain ⟨_, _, direct, quiet, _, each⟩ := body_runs_or_stage_named 1 () (.document call) swapping
  obtain ⟨_, _, _, _, _, others⟩ := body_runs_or_stage_named 1 () (.document missing) swapping
  have first : ⟨.value call, swapping, _⟩ ∈ Run.turns (handle (callback 1) ()) [.value call] swapping :=
    List.mem_cons_self ..
  have other : ⟨.value missing, swapping, _⟩ ∈ Run.turns (handle (callback 1) ()) [.value missing] swapping :=
    List.mem_cons_self ..
  obtain ⟨_, _, _, once, runs, _⟩ := each _ first
  obtain ⟨_, _, _, _, _, failed⟩ := others _ other
  obtain ⟨_, _, performed, fits, performs, one, _, step⟩ := runs _ _ reaches
  obtain ⟨_, counted, error, ended, stage⟩ := failed rfl
  cases fits
  cases performs with
  | remember update next start rest later =>
      cases later
      exact ⟨quietRegistry, (quiet quietRegistry).trans (direct.trans (congrArg (· ++ []) one)),
        ⟨_, first, once.mpr ⟨_, _, reaches⟩, by rw [step]; rfl, by rw [step]; rfl⟩,
        _, other, counted, error, ended, stage.unknown.mpr ⟨_, rfl, rfl⟩⟩

end Dispatcher

end JsonRpc
