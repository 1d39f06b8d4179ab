import JsonRpc.Proofs.Bodies
import JsonRpc.Proofs.Relevance

set_option autoImplicit false

namespace JsonRpc

variable {C M H : Type}

-- The caller's value, and of the members those with no meaning in the protocol, as they stand.
structure Context.Shows (context : Context C) (data : C) (members : Members) : Prop where
  data : context.data = data
  extra : context.extra = members.filter fun member => member.1 ∉ Request.reservedMembers
  field : ∀ name value, context.extraField? name = some value ↔
    name ∉ Request.reservedMembers ∧ members.lookup name = some value

theorem Request.accepted_shows (data : C) (members : Members) (request : Request)
    (accepted : ofJson (.obj members) = .ok request) : (request.context data).Shows data members := by
  obtain ⟨_, _, _, ⟨⟩, valid⟩ := of_json_accepted (.obj members) request accepted
  have own : request.extra = extraMembers members := by rw [valid.request]
  refine ⟨rfl, ?_, fun name value => ?_⟩
  · simp only [context, own, extraMembers, isReserved]
    refine List.filter_congr fun member _ => ?_
    simp
  · simp only [Context.extraField?, context, own, lookup_extra, isReserved]
    by_cases reserved : name ∈ reservedMembers <;> simp [reserved]

namespace Dispatcher

variable (nested : String → C → Run C M H Answer) (data : C)

theorem accepted_body (hidden : ∀ text data, (nested text data).Hidden) (candidate : Candidate)
    (dispatcher : Dispatcher C M H) (request : Request) (accepted : candidate.request = .ok request) (body : Body C)
    (runs : body ∈ directBodies (handle nested data candidate dispatcher).trace) :
    ∃ (method : Method C M) (arguments : Arguments) (action : Action C M) (performed : Step C M H Outcome),
      dispatcher.registry.lookup request.method = some method ∧
        method.start (request.context data) arguments = .ok action ∧
        action.Performs nested dispatcher.counted performed ∧
        outcome nested data candidate dispatcher = classify performed.value ∧
        body = ⟨request.method, given method (request.context data), arguments.values⟩ ∧
        handle nested data candidate dispatcher = served data candidate request body performed dispatcher := by
  obtain ⟨atMost, one, _⟩ := direct_bodies_iff nested data hidden candidate dispatcher
  have some := List.length_pos_of_mem runs
  obtain ⟨other, method, reaches⟩ := one.mp (by omega)
  obtain ⟨arguments, action, performed, fits, performs, single, ended, step⟩ :=
    reached_body nested data hidden candidate dispatcher other method reaches
  have same : other = request := by
    have both := reaches.accepted
    rw [accepted, Except.ok.injEq] at both
    exact both.symm
  subst same
  rw [single, List.mem_singleton] at runs
  subst runs
  exact ⟨method, arguments, action, performed, reaches.registered,
    (method.marshal_start _ _ arguments action fits).2, performs, ended, rfl, step⟩

/-- At whatever depth of callbacks an input is dispatched, nobody is shown members of a candidate before it is
accepted, and then nobody is shown any but its own. The method starts in the context that observers are shown, and
what it then does is what is done and answered. -/
theorem contexts_show_own_members (depth : Nat) (input : Input) (dispatcher : Dispatcher C M H) :
    let nested : String → C → Run C M H Answer := callback depth
    let step := dispatchWith nested input data dispatcher
    let turns := Run.turns (handle nested data) input.candidates dispatcher
    turns.map Turn.item = input.candidates ∧
    step.trace = announcement input.document? ++ traces turns ∧
    ∀ turn ∈ turns, ∃ block : Block C,
      Trace.hookCalls (Trace.atDepth 1 turn.step.trace) = Trace.told turn.start.observer block.calls ∧
      (∀ message, turn.step.value = some message → message = .ofOutcome message.id block.outcome) ∧
      block.raw = turn.item.raw ∧
      block.opening = Context.ofCaller data ∧
      (∀ error, turn.item.request = .error error →
        block.context = Context.ofCaller data ∧ directBodies turn.step.trace = []) ∧
      (∀ request, turn.item.request = .ok request → ∃ members, turn.item = .value (.obj members) ∧
        block.context.Shows data members ∧
        ∀ body ∈ directBodies turn.step.trace,
          ∃ (method : Method C M) (arguments : Arguments) (action : Action C M) (performed : Step C M H Outcome),
            turn.start.registry.lookup request.method = some method ∧
              method.start block.context arguments = .ok action ∧
              action.Performs nested turn.start.counted performed ∧
              block.outcome = classify performed.value ∧
              body = ⟨request.method, given method block.context, arguments.values⟩ ∧
              turn.step = served data turn.item request body performed turn.start) := by
  intro nested step turns
  have discreet : Discreet nested := callback_discreet depth
  refine ⟨Run.turns_items _ _ _, congrArg Step.trace (dispatch_with_turns nested input data dispatcher), ?_⟩
  intro turn taken
  have handled : turn.step = handle nested data turn.item turn.start := Run.turns_step _ _ _ turn taken
  rw [handled]
  have told := block_outcome data turn.start.registry turn.item (outcome nested data turn.item turn.start)
  refine ⟨_, handle_block nested discreet data turn.item turn.start, ?_, ?_, ?_, ?_, ?_⟩
  · rw [told]
    exact handle_message nested data turn.item turn.start
  · cases validated : turn.item.request <;> simp [block, validated]
  · cases validated : turn.item.request <;> simp [block, validated]
  · intro error refused
    have none := refused_bodies nested data turn.item turn.start error refused
    exact ⟨by simp [block, refused], direct_bodies_nil _ none⟩
  · intro request accepted
    obtain ⟨members, object, valid⟩ := turn.item.accepted_object request accepted
    have context : (block data turn.start.registry turn.item (outcome nested data turn.item turn.start)).context =
        request.context data := by
      simp [block, accepted]
    rw [context, told]
    exact ⟨members, object, Request.accepted_shows data members request valid, fun body runs =>
      accepted_body nested data discreet.hidden turn.item turn.start request accepted body runs⟩

def whoami : Method Unit Unit := .withContext [] fun context _ => .succeed (.obj context.extra)

def introduced : Dispatcher Unit Unit Unit := (add "whoami" whoami (create (some ()) ())).dispatcher

theorem introduced_quiet : introduced.registry.Quiet :=
  Registry.quiet_register Registry.empty Registry.quiet_empty "whoami" whoami
    (Method.with_context_quiet _ _ fun _ _ => trivial)

theorem neighbour_not_shown :
    let call (trace : String) : Json :=
      .obj [("id", .str "a"), ("jsonrpc", .str "2.0"), ("method", .str "whoami"), ("trace", .str trace)]
    let entries := [call "a", .null, call "b"]
    ∃ turn ∈ Run.turns (handle (callback 1) ()) (entries.map .value) introduced, ∃ block : Block Unit,
      turn.item = .value (call "b") ∧
      Trace.hookCalls (Trace.atDepth 1 turn.step.trace) = Trace.told turn.start.observer block.calls ∧
      block.opening.extra = [] ∧ block.context.extra = [("trace", .str "b")] ∧
      block.context.extraField? "trace" = some (.str "b") ∧
      directBodies turn.step.trace = [⟨"whoami", some block.context, []⟩] ∧
      turn.step.value = some (.success (.string "a") (.obj [("trace", .str "b")])) := by
  intro call entries
  obtain ⟨_, _, each⟩ := contexts_show_own_members () 1 (.document (.arr entries)) introduced
  have third : ⟨.value (call "b"), _, _⟩ ∈
      Run.turns (handle (callback 1) ()) (entries.map .value) introduced :=
    List.mem_cons_of_mem _ (List.mem_cons_of_mem _ (List.mem_cons_self ..))
  obtain ⟨block, calls, _, _, opening, _, accepted⟩ := each _ third
  obtain ⟨members, object, shows, bodies⟩ := accepted _ rfl
  cases object
  have own : block.context = ⟨(), [("trace", .str "b")]⟩ := by
    cases context : block.context with
    | mk data extra =>
      have filtered := shows.extra
      rw [context] at filtered
      exact congrArg _ filtered
  have registry := turns_registry (callback 1) () (entries.map .value) introduced introduced_quiet _ third
  have reaches : Reaches () introduced.registry (.value (call "b"))
      { method := "whoami", params := [], id := some (.string "a"), extra := [("trace", .str "b")] } whoami :=
    ⟨⟨_, rfl⟩, rfl, rfl, _, _, rfl⟩
  rw [← registry] at reaches
  obtain ⟨_, _, _, fits, _, single, _⟩ :=
    reached_body (callback 1) () (callback_discreet 1).hidden (.value (call "b")) _ _ whoami reaches
  cases fits
  obtain ⟨method, _, _, performed, registered, started, performs, _, _, step⟩ :=
    bodies _ (single ▸ List.mem_singleton_self _)
  rw [registry] at registered
  cases registered
  rw [own] at started
  cases started
  cases performs
  refine ⟨_, third, block, rfl, calls, by rw [opening]; rfl, by rw [own], ?_, by rw [own]; exact single,
    by rw [step]; rfl⟩
  exact (shows.field "trace" (.str "b")).mpr ⟨by decide, rfl⟩

end Dispatcher

end JsonRpc
