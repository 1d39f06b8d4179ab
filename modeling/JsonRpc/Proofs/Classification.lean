import JsonRpc.Proofs.Bodies
import JsonRpc.Proofs.Reports
import JsonRpc.Proofs.ResponseForm

set_option autoImplicit false

namespace JsonRpc

variable {C M H : Type} (depth : Nat)

namespace InvocationError

def wrapped : Nat → InvocationError → InvocationError
  | 0, error => error
  | depth + 1, error => .handler (.invocation (wrapped depth error))

-- The call failed with this error object, and not with another error that holds it.
inductive Carries : InvocationError → RpcError → Prop
  | params (object : RpcError) : Carries (.params object) object
  | handler (object : RpcError) : Carries (.handler (.rpc object)) object

inductive Innermost : InvocationError → String → Prop
  | params (object : RpcError) : Innermost (.params object) object.message
  | object (object : RpcError) : Innermost (.handler (.rpc object)) object.message
  | response (sent : ErrorResponse) :
      Innermost (.handler (.response sent))
        ("JSON-RPC Error " ++ toString sent.error.code.toInt ++ ": " ++ sent.error.message)
  | text (message : String) : Innermost (.handler (.text message)) message
  | result (cause : Json.Error) : Innermost (.result cause) ("failed to serialize handler result: " ++ cause.message)

theorem wrapped_display (depth : Nat) (error : InvocationError) : (wrapped depth error).display = error.display := by
  induction depth with
  | zero => rfl
  | succ depth ih => exact ih

theorem innermost_display (error : InvocationError) (text : String) (innermost : error.Innermost text) :
    error.display = text := by
  cases innermost <;> rfl

theorem unwrapped : (error : InvocationError) → ∃ depth core text, error = wrapped depth core ∧ core.Innermost text
  | .params object => ⟨0, _, _, rfl, .params object⟩
  | .result cause => ⟨0, _, _, rfl, .result cause⟩
  | .handler (.rpc object) => ⟨0, _, _, rfl, .object object⟩
  | .handler (.response sent) => ⟨0, _, _, rfl, .response sent⟩
  | .handler (.text message) => ⟨0, _, _, rfl, .text message⟩
  | .handler (.invocation inner) => by
      obtain ⟨depth, core, text, same, innermost⟩ := unwrapped inner
      exact ⟨depth + 1, core, text, by rw [same, wrapped], innermost⟩

theorem to_rpc_error_carried (error : InvocationError) (object : RpcError) (carried : error.Carries object) :
    error.toRpcError = object := by
  cases carried <;> rfl

theorem to_rpc_error_raised (raised : HandlerError) (noObject : ∀ object, raised ≠ .rpc object) :
    (handler raised).toRpcError = .internalError raised.display := by
  cases raised with
  | rpc object => exact absurd rfl (noObject object)
  | _ => rfl

theorem to_rpc_error_wrapped (depth : Nat) (error : InvocationError) :
    (wrapped (depth + 1) error).toRpcError = .internalError error.display :=
  congrArg RpcError.internalError (wrapped_display depth error)

theorem to_rpc_error_uncarried (error : InvocationError) (uncarried : ∀ object, ¬ error.Carries object) :
    error.toRpcError.code = ErrorCode.internalError.code ∧ error.toRpcError.data = none := by
  cases error with
  | params object => exact absurd (.params object) (uncarried object)
  | result cause => exact ⟨rfl, rfl⟩
  | handler raised =>
      have noObject (object : RpcError) (same : raised = .rpc object) : False :=
        uncarried object (same ▸ .handler object)
      rw [to_rpc_error_raised raised noObject]
      exact ⟨rfl, rfl⟩

theorem to_rpc_error_message (error : InvocationError) (encoded : ∀ cause, error ≠ .result cause) :
    error.toRpcError.message = error.display := by
  cases error with
  | params object => rfl
  | result cause => exact absurd rfl (encoded cause)
  | handler raised => cases raised <;> rfl

end InvocationError

inductive Outcome.Sent (id : RequestId) : Outcome → Json → Prop
  | value (result : Json) :
      Sent id (.value result) (.obj [("id", id.toJson), ("jsonrpc", .str "2.0"), ("result", result)])
  | object (error : RpcError) (raw : Json) (shown : error.Object raw) :
      Sent id (.failed (.rpc error)) (.obj [("error", raw), ("id", id.toJson), ("jsonrpc", .str "2.0")])
  | words (error : HandlerError) (noObject : ∀ object, error ≠ .rpc object) :
      Sent id (.failed error) (.obj [
        ("error", .obj [("code", .ofInt64 (-32603)), ("message", .str error.display)]),
        ("id", id.toJson), ("jsonrpc", .str "2.0")])
  | unencodable (cause : Json.Error) :
      Sent id (.unencodable cause) (.obj [
        ("error", .obj [("code", .ofInt64 (-32603)), ("message", .str cause.message)]),
        ("id", id.toJson), ("jsonrpc", .str "2.0")])

theorem Outcome.of_outcome_sent (id : RequestId) (outcome : Outcome) :
    outcome.Sent id (Message.ofOutcome id (Dispatcher.classify outcome)).toJson := by
  cases outcome with
  | value result => exact .value result
  | unencodable cause => exact .unencodable cause
  | failed error =>
      by_cases object : ∃ raised, error = .rpc raised
      · obtain ⟨raised, rfl⟩ := object
        exact .object raised _ raised.written_object
      · have noObject (raised : RpcError) (same : error = .rpc raised) : False := object ⟨raised, same⟩
        have told : Dispatcher.classify (.failed error) = .error (.internalError error.display) :=
          congrArg Except.error (InvocationError.to_rpc_error_raised error noObject)
        rw [told]
        exact .words error noObject

namespace Dispatcher

variable (nested : String → C → Run C M H Answer) (data : C)

theorem handle_runs (candidate : Candidate) (dispatcher : Dispatcher C M H) (request : Request) (method : Method C M)
    (arguments : Arguments) (action : Action C M) (reaches : Reaches data dispatcher.registry candidate request method)
    (fits : method.marshal (request.context data) request.params = .ok (arguments, action)) :
    (handle nested data candidate dispatcher).value = request.id.map fun id =>
      .ofOutcome id (classify (Run.perform nested action dispatcher.counted).value) := by
  rw [handle_accepted nested dispatcher data candidate request reaches.accepted]
  have runs := invoke_runs nested dispatcher.counted request (request.context data) method arguments action
    reaches.registered fits
  simp only [runs]

/-- A failed call is told as the error object that it failed with, or else as an internal error in the words of
the innermost error, however deep; and so it is sent to a caller who gave an identifier, as is a result. -/
theorem errors_classified :
    (∀ error : InvocationError,
      (∀ object, error.Carries object → error.toRpcError = object) ∧
      ((∀ object, ¬ error.Carries object) →
        error.toRpcError.code = ErrorCode.internalError.code ∧ error.toRpcError.data = none) ∧
      (∃ depth core text, error = .wrapped depth core ∧ core.Innermost text ∧ error.display = text) ∧
      ((∀ cause, error ≠ .result cause) → error.toRpcError.message = error.display) ∧
      (∀ cause, error = .result cause → error.toRpcError = .internalError cause.message ∧
        error.display = "failed to serialize handler result: " ++ error.toRpcError.message) ∧
      ∀ depth, (InvocationError.wrapped (depth + 1) error).toRpcError = .internalError error.display) ∧
    ∀ (input : Input) (dispatcher : Dispatcher C M H),
      ∀ turn ∈ Run.turns (handle nested data) input.candidates dispatcher,
      ∀ request method, Reaches data turn.start.registry turn.item request method → ∀ id, request.id = some id →
        ∃ arguments action performed, method.marshal (request.context data) request.params = .ok (arguments, action) ∧
          action.Performs nested turn.start.counted performed ∧
          ∃ message ∈ (dispatchWith nested input data dispatcher).value.messages, turn.step.value = some message ∧
            performed.value.Sent id message.toJson := by
  refine ⟨fun error => ⟨error.to_rpc_error_carried, error.to_rpc_error_uncarried, ?_, error.to_rpc_error_message, ?_,
    fun depth => error.to_rpc_error_wrapped depth⟩, ?_⟩
  · obtain ⟨depth, core, text, same, innermost⟩ := error.unwrapped
    refine ⟨depth, core, text, same, innermost, ?_⟩
    rw [same, InvocationError.wrapped_display]
    exact core.innermost_display text innermost
  · rintro cause rfl
    exact ⟨rfl, rfl⟩
  · intro input dispatcher turn taken request method reaches id identified
    obtain ⟨arguments, action, fits⟩ := reaches.fits
    have sent := handle_runs nested data turn.item turn.start request method arguments action reaches fits
    rw [← Run.turns_step _ _ _ turn taken, identified] at sent
    refine ⟨arguments, action, _, fits, action.performs_perform nested _, _, ?_, sent, Outcome.of_outcome_sent id _⟩
    rw [answer_messages nested data input dispatcher]
    exact List.mem_flatMap.mpr ⟨turn, taken, Option.mem_toList.mpr sent⟩

def ending (outcome : Outcome) : Dispatcher Unit Unit Unit :=
  (add "end" (.plain [] fun _ => .finish outcome) (create none ())).dispatcher

theorem buried_and_unwritten_told_in_words :
    let call : Json := .obj [("id", .str "a"), ("jsonrpc", .str "2.0"), ("method", .str "end")]
    let object : RpcError := { code := 7, message := "Out of order", data := some (.bool true) }
    let buried : Outcome := .failed (.invocation (.handler (.rpc object)))
    let unwritten : Outcome := .unencodable ⟨.custom "boom", none⟩
    let told (text : String) : Json := .obj [("error", .obj [("code", .ofInt64 (-32603)), ("message", .str text)]),
      ("id", .str "a"), ("jsonrpc", .str "2.0")]
    (∃ message ∈ (dispatch 1 (.document call) () (ending buried)).value.messages,
      message.toJson = told "Out of order") ∧
    ∃ message ∈ (dispatch 1 (.document call) () (ending unwritten)).value.messages, message.toJson = told "boom" := by
  intro call object buried unwritten told
  obtain ⟨_, onWire⟩ := errors_classified (C := Unit) (M := Unit) (H := Unit) (callback 1) ()
  have sent (outcome : Outcome) : ∃ message ∈ (dispatch 1 (.document call) () (ending outcome)).value.messages,
      outcome.Sent (.string "a") message.toJson := by
    have taken : ⟨.value call, ending outcome, _⟩ ∈
        Run.turns (handle (callback 1) ()) (Input.document call).candidates (ending outcome) :=
      List.mem_singleton.mpr rfl
    have reaches : Reaches () (ending outcome).registry (.value call)
        { method := "end", params := [], id := some (.string "a"), extra := [] } (.plain [] fun _ => .finish outcome) :=
      ⟨⟨_, rfl⟩, rfl, rfl, _, _, rfl⟩
    obtain ⟨_, _, _, fits, performs, message, sent, _, form⟩ :=
      onWire (.document call) (ending outcome) _ taken _ _ reaches _ rfl
    cases fits
    cases performs
    exact ⟨message, sent, form⟩
  constructor
  · obtain ⟨message, taken, form⟩ := sent (.failed _)
    refine ⟨message, taken, ?_⟩
    generalize message.toJson = document at form ⊢
    cases form
    rfl
  · obtain ⟨message, taken, form⟩ := sent (.unencodable _)
    refine ⟨message, taken, ?_⟩
    generalize message.toJson = document at form ⊢
    cases form
    rfl

end Dispatcher

end JsonRpc
