import JsonRpc.Proofs.Quiet
import JsonRpc.Proofs.Validation

set_option autoImplicit false

namespace JsonRpc.Dispatcher

variable {C M H : Type} (depth : Nat)

-- The refusal of what is no object. It looks at nothing inside, and not at the methods either.
def refusal (raw : Json) (data : C) : Run C M H (List Message) := fun dispatcher =>
  let error : RpcError := .invalidRequest "Not a JSON-RPC 2.0 request"
  ⟨[.failure .null error], dispatcher.counted,
    (dispatcher.report (.beforeRequest raw (Context.ofCaller data)) ++ Trace.ofNotices [.rejected error] ++
      dispatcher.report (.afterRequest "" (.error error) (Context.ofCaller data))).map
      (Entry.within dispatcher.sequence)⟩

def alone (data : C) : Json → Run C M H (List Message)
  | .obj members => Run.map Answer.messages (process depth (.obj members) data)
  | entry => refusal entry data

theorem of_message_messages (message : Option Message) : (Answer.ofMessage? message).messages = message.toList := by
  cases message <;> rfl

theorem alone_entry (data : C) (entry : Json) (dispatcher : Dispatcher C M H) :
    alone depth data entry dispatcher =
      Run.map Option.toList (processEntry (callback depth) data entry) dispatcher := by
  cases entry with
  | obj members => simp [alone, process, processWith, processEntry, Json.isObject, of_message_messages]
  | _ => simp [alone, refusal, processEntry, Json.isObject, reject, Request.notRequest, Trace.ofNotices]

theorem process_entries_alone (data : C) (entries : List Json) (dispatcher : Dispatcher C M H) :
    processEntries (callback depth) data entries dispatcher =
      let turns := Run.turns (alone depth data) entries dispatcher
      ⟨turns.flatMap fun turn => turn.step.value, Turn.last turns dispatcher, traces turns⟩ := by
  induction entries generalizing dispatcher with
  | nil => rfl
  | cons entry rest ih => simp [processEntries, Run.turns, alone_entry, ih, traces, Turn.last]

theorem of_messages_silent (messages : List Message) : Answer.ofMessages messages = .silent ↔ messages = [] := by
  cases messages <;> simp [Answer.ofMessages]

theorem refused_alone (data : C) (entry : Json) (noObject : entry.isObject = false) :
    (alone depth data entry : Run C M H (List Message)) = refusal entry data := by
  cases entry with
  | obj members => simp [Json.isObject] at noObject
  | _ => rfl

theorem refusal_seen (raw : Json) (data : C) (dispatcher : Dispatcher C M H) :
    let error : RpcError := .invalidRequest "Not a JSON-RPC 2.0 request"
    Trace.bodies (refusal raw data dispatcher).trace = [] ∧
      Trace.hookCalls (refusal raw data dispatcher).trace = Trace.told dispatcher.observer
        [.beforeRequest raw (Context.ofCaller data), .afterRequest "" (.error error) (Context.ofCaller data)] := by
  simp [refusal, ← Trace.told_append]

theorem object_alone (data : C) (entry : Json) (object : entry.isObject = true) :
    (alone depth data entry : Run C M H (List Message)) = Run.map Answer.messages (process depth entry data) := by
  obtain ⟨members, rfl⟩ := (is_object_iff entry).mp object
  rfl

theorem quiet_batch_seen (data : C) (entries : List Json) (dispatcher : Dispatcher C M H)
    (quiet : dispatcher.registry.Quiet) :
    (Turn.last (Run.turns (alone depth data) entries dispatcher) dispatcher).requestsSeen =
      dispatcher.requestsSeen + .ofNat entries.length := by
  have same : Turn.last (Run.turns (alone depth data) entries dispatcher) dispatcher =
      Turn.last (Run.turns (handle (callback depth) data) (entries.map .value) dispatcher) dispatcher := by
    have one := process_entries_alone depth data entries dispatcher
    have other := process_entries_turns (callback depth) data entries dispatcher
    exact congrArg Step.dispatcher (one.symm.trans other)
  obtain ⟨memory, counted⟩ := turns_quiet (callback depth) data (entries.map .value) dispatcher quiet
  rw [same, counted]
  simp [requestsSeen]

/-- A batch of at least one entry does what its entries do one after the other, each from where the one
before it ended, and is answered by their messages. -/
theorem batch_is_entries_in_turn (data : C) (first : Json) (rest : List Json) (dispatcher : Dispatcher C M H) :
    let entries := first :: rest
    let turns := Run.turns (alone depth data) entries dispatcher
    let messages := turns.flatMap fun turn => turn.step.value
    let step := process depth (.arr entries) data dispatcher
    step.value = Answer.ofMessages messages ∧
      (step.value = .silent ↔ messages = []) ∧
      (messages ≠ [] → step.value = .batch messages) ∧
      step.dispatcher = Turn.last turns dispatcher ∧
      step.trace = ⟨[], .notice (.batch entries.length)⟩ :: traces turns ∧
      Trace.hookCalls step.trace = (turns.flatMap fun turn => Trace.hookCalls turn.step.trace) ∧
      Trace.bodies step.trace = (turns.flatMap fun turn => Trace.bodies turn.step.trace) ∧
      (∀ turn ∈ turns, turn.item.isObject = true →
        turn.step = Run.map Answer.messages (process depth turn.item data) turn.start) ∧
      (∀ turn ∈ turns, turn.item.isObject = false →
        let error : RpcError := .invalidRequest "Not a JSON-RPC 2.0 request"
        turn.step.value = [.failure .null error] ∧ turn.step.dispatcher = turn.start.counted ∧
          Trace.bodies turn.step.trace = [] ∧
          Trace.hookCalls turn.step.trace = Trace.told turn.start.observer
            [.beforeRequest turn.item (Context.ofCaller data),
              .afterRequest "" (.error error) (Context.ofCaller data)]) ∧
      (dispatcher.registry.Quiet → step.dispatcher.requestsSeen = dispatcher.requestsSeen + .ofNat entries.length) := by
  intro entries turns messages step
  have whole : step = ⟨Answer.ofMessages messages, Turn.last turns dispatcher,
      ⟨[], .notice (.batch entries.length)⟩ :: traces turns⟩ := by
    simp [step, process, processWith, processBatch, entries, process_entries_alone, messages, turns]
  have alike (turn : Turn Json C M H (List Message)) (taken : turn ∈ turns) :
      turn.step = alone depth data turn.item turn.start :=
    Run.turns_step (alone depth data) entries dispatcher turn taken
  rw [whole]
  refine ⟨rfl, of_messages_silent messages, ?_, rfl, rfl, Trace.hook_calls_flat_map turns _,
    Trace.bodies_flat_map turns _, ?_, ?_, quiet_batch_seen depth data entries dispatcher⟩
  · intro present
    simp [Answer.ofMessages, present]
  · intro turn taken object
    rw [alike turn taken, object_alone depth data turn.item object]
  · intro turn taken noObject
    rw [alike turn taken, refused_alone depth data turn.item noObject]
    exact ⟨rfl, rfl, refusal_seen turn.item data turn.start⟩

theorem echoed_batch_in_turn :
    let call : Json := .obj [("id", .str "a"), ("jsonrpc", .str "2.0"), ("method", .str "echo")]
    let step := process 1 (.arr [call, .arr [call]]) () echoing
    let turns := Run.turns (alone 1 ()) [call, .arr [call]] echoing
    let refused : Message := .failure .null (.invalidRequest "Not a JSON-RPC 2.0 request")
    echoing.registry.Quiet ∧ call.isObject = true ∧ (Json.arr [call]).isObject = false ∧
      step.value = .batch [.success (.string "a") (.arr []), refused] ∧ step.dispatcher.requestsSeen = 2 ∧
      ∃ turn ∈ turns, turn.item = .arr [call] ∧ turn.step.value = [refused] := by
  intro call step turns refused
  obtain ⟨_, _, batch, _, _, _, _, _, others, seen⟩ := batch_is_entries_in_turn 1 () call [.arr [call]] echoing
  have second : ⟨.arr [call], _, _⟩ ∈ turns := List.mem_cons_of_mem _ (List.mem_cons_self ..)
  exact ⟨echoing_quiet, rfl, rfl, batch (List.cons_ne_nil _ _), seen echoing_quiet,
    _, second, rfl, (others _ second rfl).1⟩

end JsonRpc.Dispatcher
