import JsonRpc.Proofs.Handling
import JsonRpc.Proofs.Marshaling
import JsonRpc.Proofs.Performance

set_option autoImplicit false

namespace JsonRpc

namespace Dispatcher

open ParamType

variable {C M H : Type} (nested : String → C → Run C M H Answer) (dispatcher : Dispatcher C M H)

theorem call_unaware (types : List ParamType) (body : Tuple types → Action C M) (request : Request)
    (context : Context C) :
    let aware := call nested (.withContext types fun _ => body) request context dispatcher
    let plain := call nested (.plain types body) request context dispatcher
    aware.value = plain.value ∧ aware.dispatcher = plain.dispatcher ∧
      (Trace.bodies aware.trace).map Body.arguments = (Trace.bodies plain.trace).map Body.arguments := by
  have same : (Method.withContext types fun _ => body).marshal context request.params =
      (Method.plain types body).marshal context request.params := rfl
  cases fits : (Method.plain types body).marshal context request.params with
  | error misfit =>
      rw [fits] at same
      simp [call_misfit nested dispatcher _ request context misfit same,
        call_misfit nested dispatcher _ request context misfit fits]
  | ok marshaled =>
      obtain ⟨arguments, action⟩ := marshaled
      rw [fits] at same
      simp [call_runs nested dispatcher _ request context arguments action same,
        call_runs nested dispatcher _ request context arguments action fits]

/-- A body runs once if its arguments can be supplied, and on these; otherwise it does not run, and the error
says why. A context takes the place of no parameter: a body that ignores it does as it would without one. -/
theorem body_called_on_arguments (types : List ParamType) (handler : Handler C M types) (request : Request)
    (context : Context C) :
    let called := call nested handler.method request context dispatcher
    let told := dispatcher.report (.beforeInvoke request.method context)
    (∀ values, Supplied types request.params values →
      ∃ performed, (handler.body context values).Performs nested dispatcher performed ∧
        called = ⟨classify performed.value, performed.dispatcher,
          told ++ ⟨[], .entered request.method (given handler.method context) (bound types request.params)⟩ ::
            performed.trace⟩) ∧
    (∀ text, Refused types request.params text → called = ⟨.error (.invalidParams text), dispatcher, told⟩) ∧
    ((∃ values, Supplied types request.params values) ∨ ∃ text, Refused types request.params text) ∧
    ∀ body : Tuple types → Action C M,
      let aware := call nested (.withContext types fun _ => body) request context dispatcher
      let plain := call nested (.plain types body) request context dispatcher
      aware.value = plain.value ∧ aware.dispatcher = plain.dispatcher ∧
        (Trace.bodies aware.trace).map Body.arguments = (Trace.bodies plain.trace).map Body.arguments := by
  refine ⟨fun values supplied => ?_, fun text refused => ?_, supplied_or_refused types request.params,
    fun body => call_unaware nested dispatcher types body request context⟩
  · have fits := handler.marshal_supplied context request.params values supplied
    exact ⟨_, (handler.body context values).performs_perform nested dispatcher,
      call_runs nested dispatcher handler.method request context _ _ fits⟩
  · obtain ⟨misfit, rfl, unfit⟩ := handler.marshal_refused context request.params text refused
    exact call_misfit nested dispatcher handler.method request context misfit unfit

theorem first_of_two_misfits_told :
    let types : List ParamType := [.typed String Decoder.string, .typed Request Request.decoder, .json]
    let handler : Handler Unit Unit types :=
      .withContext fun _ (text, inner, value, ()) => .succeed (.arr [value, .str inner.method, .str text])
    let inner (method : String) : Json := .obj [("jsonrpc", .str "2.0"), ("method", .str method)]
    let called (params : List Json) : Step Unit Unit Unit (Except RpcError Json) :=
      call (callback 1) handler.method { method := "turn", params, id := none, extra := [] } (.ofCaller ())
        (create none ())
    (called [.str "a", inner "b", .null]).value = .ok (.arr [.null, .str "b", .str "a"]) ∧
      (called [.null]).value = .error (.invalidParams "Invalid parameters passed to method") ∧
      (called [.null, .null, .null]).value = .error (.invalidParams "invalid type: null, expected a string") ∧
      (called [.str "a", inner "", .null]).value = .error (.invalidParams "Method cannot be empty") := by
  intro types handler inner called
  have several : types ≠ [.json] := by simp [types]
  have told (params : List Json) := body_called_on_arguments (callback 1) (create none () : Dispatcher Unit Unit Unit)
    types handler { method := "turn", params, id := none, extra := [] } (.ofCaller ())
  refine ⟨?_, ?_, ?_, ?_⟩
  · let request : Request := { method := "b", params := [], id := none, extra := [] }
    have supplied : Supplied types [.str "a", inner "b", .null] ("a", request, .null, ()) :=
      .each _ _ _ several (.cons _ _ _ _ _ _ rfl (.cons _ _ _ _ _ _ rfl (.cons _ _ _ _ _ _ rfl .nil)))
    obtain ⟨_, performs, same⟩ := (told [.str "a", inner "b", .null]).1 _ supplied
    cases performs
    exact congrArg Step.value same
  · exact congrArg Step.value ((told [.null]).2.1 _ (.count several (by simp [types])))
  · have misfit : FirstMisfit _ types [.null, .null, .null] := .here _ _ _ _ rfl
    exact congrArg Step.value ((told [.null, .null, .null]).2.1 _ (.value several rfl _ misfit))
  · have misfit : FirstMisfit _ types [.str "a", inner "", .null] := .later _ _ _ _ ⟨_, rfl⟩ (.here _ _ _ _ rfl)
    exact congrArg Step.value ((told [.str "a", inner "", .null]).2.1 _ (.value several rfl _ misfit))

end Dispatcher

end JsonRpc
