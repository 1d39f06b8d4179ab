import JsonRpc.Calculator.Methods
import JsonRpc.Proofs.Building
import JsonRpc.Proofs.Bodies
import JsonRpc.Proofs.MemberOrder
import JsonRpc.Proofs.NearestFloat
import JsonRpc.Proofs.Reports
import JsonRpc.Proofs.WrittenForm

set_option autoImplicit false

namespace JsonRpc

def Json.isNumber : Json → Bool
  | .num _ => true
  | _ => false

theorem Number.of_to_float (number : Number) :
    Json.ofFloat number.toFloat = .num (.float number.toFloat number.to_float_finite) := by
  simp [Json.ofFloat, Number.ofFloat?, number.to_float_finite]

namespace Calculator

open ParamType

variable (depth : Nat)

def told (caller : Caller) (candidate : Candidate) : Except RpcError Json :=
  Dispatcher.outcome (Dispatcher.callback depth) caller candidate dispatcher

-- The errors that bodies fail with, by the request alone.
inductive Fails (request : Request) : RpcError → Prop
  | root (number : Number) (named : request.method = "sqrt") (single : request.params = [.num number])
      (negative : number.Negative) : Fails request (.internalError (noSquareRoot number.toFloat))
  | division (dividend divisor : Number) (named : request.method = "divide")
      (pair : request.params = [.num dividend, .num divisor]) (zero : divisor.IsZero) :
      Fails request (divisionByZero dividend.toFloat)
  | item (item : Json) (text : String) (named : request.method = "sum")
      (first : request.params.find? (fun item => !item.isNumber) = some item) (written : item.Written text) :
      Fails request (.invalidParams ("Not a number: " ++ text))

def Unfailing (method : CalculatorMethod) : Prop :=
  ∀ context arguments action, method.start context arguments = .ok action → ∃ result, action.EndsIn (.value result)

theorem plain_unfailing (types : List ParamType) (body : Tuple types → CalculatorAction)
    (ends : ∀ values, ∃ result, (body values).EndsIn (.value result)) : Unfailing (.plain types body) := by
  intro context arguments action started
  obtain ⟨values, rfl⟩ := Method.plain_started types body context arguments action started
  exact ends values

theorem whoami_unfailing : Unfailing whoami := by
  intro context arguments action started
  cases started
  exact ⟨_, rfl⟩

theorem methods_listed (name : String) (method : CalculatorMethod) (listed : (name, method) ∈ methods) :
    Unfailing method ∨ (name = "divide" ∧ method = divide) ∨ (name = "sum" ∧ method = sum) ∨
      (name = "sqrt" ∧ method = sqrt) := by
  simp only [methods, List.mem_cons, Prod.mk.injEq, List.not_mem_nil, or_false] at listed
  rcases listed with ⟨_, rfl⟩ | ⟨_, rfl⟩ | ⟨_, rfl⟩ | divided | summed | rooted | ⟨_, rfl⟩ | ⟨_, rfl⟩
  · exact .inl (plain_unfailing _ _ fun _ => ⟨_, rfl⟩)
  · exact .inl (plain_unfailing _ _ fun _ => ⟨_, rfl⟩)
  · exact .inl (plain_unfailing _ _ fun _ => ⟨_, rfl⟩)
  · exact .inr (.inl divided)
  · exact .inr (.inr (.inl summed))
  · exact .inr (.inr (.inr rooted))
  · exact .inl (plain_unfailing _ _ fun _ => ⟨_, rfl⟩)
  · exact .inl whoami_unfailing

theorem quotient_ends (dividend divisor : Float) :
    (quotient dividend divisor).EndsIn
      (if divisor == 0.0 then .failed (.rpc (divisionByZero dividend))
      else .value (.ofFloat (dividend / divisor))) := by
  unfold quotient
  split <;> rfl

theorem square_root_ends (value : Float) :
    (squareRoot value).EndsIn
      (if value < 0.0 then .failed (.text (noSquareRoot value)) else .value (.ofFloat value.sqrt)) := by
  unfold squareRoot
  split <;> rfl

theorem sum_ends (params : Json) :
    (sumItems params).EndsIn (match total 0.0 (items params) with
      | .ok value => .value (.ofFloat value)
      | .error error => .failed (.rpc error)) := by
  unfold sumItems
  cases total 0.0 (items params) <;> rfl

theorem total_numbers (start : Float) (items : List Json) (all : items.find? (fun item => !item.isNumber) = none) :
    ∃ value, total start items = .ok value := by
  induction items generalizing start with
  | nil => exact ⟨start, rfl⟩
  | cons item rest ih =>
      cases item with
      | num value => exact ih (start + value.toFloat) all
      | _ => cases all

theorem total_first (start : Float) (items : List Json) (item : Json)
    (first : items.find? (fun item => !item.isNumber) = some item) : total start items = .error (notNumber item) := by
  induction items generalizing start with
  | nil => cases first
  | cons other rest ih =>
      cases other with
      | num value => exact ih (start + value.toFloat) first
      | _ =>
          cases first
          rfl

theorem lookup_methods (name : String) : dispatcher.registry.lookup name = methods.lookup name :=
  Builder.methods_lookup methods Builder.start name

theorem methods_functional : dispatcher.registry.Functional := by
  intro name method registered
  rw [lookup_methods] at registered
  rcases methods_listed name method (mem_of_lookup methods name method registered) with
    unfailing | ⟨_, rfl⟩ | ⟨_, rfl⟩ | ⟨_, rfl⟩
  · intro context arguments action started
    obtain ⟨result, ends⟩ := unfailing context arguments action started
    exact ⟨_, ends⟩
  · exact Method.plain_functional _ _ fun values => ⟨_, quotient_ends values.1 values.2.1⟩
  · exact Method.plain_functional _ _ fun values => ⟨_, sum_ends values.1⟩
  · exact Method.plain_functional _ _ fun values => ⟨_, square_root_ends values.1⟩

variable (caller : Caller) (candidate : Candidate) (request : Request)

theorem told_supplied (types : List ParamType) (handler : Handler Caller Unit types) (values : Tuple types)
    (outcome : Outcome) (accepted : candidate.request = .ok request)
    (registered : methods.lookup request.method = some handler.method) (supplied : Supplied types request.params values)
    (ends : (handler.body (request.context caller) values).EndsIn outcome) :
    told depth caller candidate = Dispatcher.classify outcome := by
  have fits := handler.marshal_supplied (request.context caller) request.params values supplied
  rw [← lookup_methods] at registered
  exact Dispatcher.outcome_ends _ caller candidate dispatcher request _ _ _ outcome accepted registered fits ends

theorem divide_told (dividend divisor : Number) (accepted : candidate.request = .ok request)
    (named : request.method = "divide") (pair : request.params = [.num dividend, .num divisor]) :
    told depth caller candidate =
      if divisor.toFloat == 0.0 then .error (divisionByZero dividend.toFloat)
      else .ok (.ofFloat (dividend.toFloat / divisor.toFloat)) := by
  have registered : methods.lookup request.method = some divide := by rw [named]; rfl
  have supplied : Supplied operands request.params (dividend.toFloat, divisor.toFloat, ()) := by
    rw [pair]
    exact .each _ _ _ (by simp [operands]) (.cons _ _ _ _ _ _ rfl (.cons _ _ _ _ _ _ rfl .nil))
  have ended := told_supplied depth caller candidate request operands
    (.plain fun values => quotient values.1 values.2.1) _ _ accepted registered supplied
    (quotient_ends dividend.toFloat divisor.toFloat)
  rw [ended]
  split <;> rfl

theorem sqrt_told (number : Number) (accepted : candidate.request = .ok request) (named : request.method = "sqrt")
    (single : request.params = [.num number]) :
    told depth caller candidate =
      if number.toFloat < 0.0 then .error (.internalError (noSquareRoot number.toFloat))
      else .ok (.ofFloat number.toFloat.sqrt) := by
  have registered : methods.lookup request.method = some sqrt := by rw [named]; rfl
  have supplied : Supplied [floatParam] request.params (number.toFloat, ()) := by
    rw [single]
    exact .each _ _ _ (by simp [floatParam]) (.cons _ _ _ _ _ _ rfl .nil)
  have ended := told_supplied depth caller candidate request [floatParam] (.plain fun values => squareRoot values.1) _ _
    accepted registered supplied (square_root_ends number.toFloat)
  rw [ended]
  split <;> rfl

theorem sum_told (accepted : candidate.request = .ok request) (named : request.method = "sum") :
    told depth caller candidate = (total 0.0 request.params).map Json.ofFloat := by
  have registered : methods.lookup request.method = some sum := by rw [named]; rfl
  have ended := told_supplied depth caller candidate request [.json] (.plain fun values => sumItems values.1) _ _
    accepted registered (.whole request.params) (sum_ends (.arr request.params))
  rw [ended, items]
  cases total 0.0 request.params <;> rfl

theorem fails_told (error : RpcError) (accepted : candidate.request = .ok request) (fails : Fails request error) :
    told depth caller candidate = .error error := by
  cases fails with
  | root number named single negative =>
      rw [sqrt_told depth caller candidate request number accepted named single,
        if_pos (number.to_float_negative.mpr negative)]
  | division dividend divisor named pair zero =>
      rw [divide_told depth caller candidate request dividend divisor accepted named pair,
        if_pos (divisor.to_float_is_zero.mpr zero)]
  | item item text named first written =>
      rw [sum_told depth caller candidate request accepted named, total_first 0.0 request.params item first,
        (item.written_iff text).mp written]
      rfl

theorem float_converts (value : Json) (converts : floatParam.Converts value) : ∃ number, value = .num number := by
  obtain ⟨converted, decoded⟩ := converts
  obtain ⟨number, written, _⟩ := (Decoder.float_iff value converted).mp decoded
  exact ⟨number, written⟩

theorem divide_ends (accepted : candidate.request = .ok request) (named : request.method = "divide")
    (fits : Fit operands request.params) :
    (∃ result, told depth caller candidate = .ok result) ∨ ∃ error, Fails request error := by
  have converts := fits.resolve_left (by simp [operands, takesAll])
  obtain ⟨first, others, firstConverts, rest, pair⟩ := List.forall₂_cons_left_iff.mp converts
  obtain ⟨second, none, secondConverts, ended, rfl⟩ := List.forall₂_cons_left_iff.mp rest
  obtain ⟨dividend, rfl⟩ := float_converts first firstConverts
  obtain ⟨divisor, rfl⟩ := float_converts second secondConverts
  rw [List.forall₂_nil_left_iff.mp ended] at pair
  by_cases zero : divisor.IsZero
  · exact .inr ⟨_, .division dividend divisor named pair zero⟩
  · rw [divide_told depth caller candidate request dividend divisor accepted named pair,
      if_neg (mt divisor.to_float_is_zero.mp zero)]
    exact .inl ⟨_, rfl⟩

theorem sqrt_ends (accepted : candidate.request = .ok request) (named : request.method = "sqrt")
    (fits : Fit [floatParam] request.params) :
    (∃ result, told depth caller candidate = .ok result) ∨ ∃ error, Fails request error := by
  have converts := fits.resolve_left (by simp [floatParam, takesAll])
  obtain ⟨first, others, firstConverts, ended, single⟩ := List.forall₂_cons_left_iff.mp converts
  obtain ⟨number, rfl⟩ := float_converts first firstConverts
  rw [List.forall₂_nil_left_iff.mp ended] at single
  by_cases negative : number.Negative
  · exact .inr ⟨_, .root number named single negative⟩
  · rw [sqrt_told depth caller candidate request number accepted named single,
      if_neg (mt number.to_float_negative.mp negative)]
    exact .inl ⟨_, rfl⟩

theorem sum_result (accepted : candidate.request = .ok request) (named : request.method = "sum")
    (all : request.params.find? (fun item => !item.isNumber) = none) :
    ∃ result, told depth caller candidate = .ok result := by
  obtain ⟨value, added⟩ := total_numbers 0.0 request.params all
  rw [sum_told depth caller candidate request accepted named, added]
  exact ⟨_, rfl⟩

theorem reached_ends (method : CalculatorMethod)
    (reaches : Reaches caller dispatcher.registry candidate request method) :
    (∃ result, told depth caller candidate = .ok result) ∨ ∃ error, Fails request error := by
  have registered := reaches.registered
  rw [lookup_methods] at registered
  rcases methods_listed _ _ (mem_of_lookup methods _ _ registered) with
    unfailing | ⟨named, rfl⟩ | ⟨named, rfl⟩ | ⟨named, rfl⟩
  · obtain ⟨arguments, action, fits⟩ := reaches.fits
    obtain ⟨_, started⟩ := method.marshal_start _ _ _ _ fits
    obtain ⟨result, ends⟩ := unfailing _ _ _ started
    exact .inl ⟨result, Dispatcher.outcome_ends _ caller candidate dispatcher request method arguments action
      (.value result) reaches.accepted reaches.registered fits ends⟩
  · have fits := (marshals_iff divide operands (.plain _ _) _ _).mp reaches.fits
    exact divide_ends depth caller candidate request reaches.accepted named fits
  · cases first : request.params.find? (fun item => !item.isNumber) with
    | none => exact .inl (sum_result depth caller candidate request reaches.accepted named first)
    | some item => exact .inr ⟨_, .item item item.render named first ((item.written_iff _).mpr rfl)⟩
  · have fits := (marshals_iff sqrt [floatParam] (.plain _ _) _ _).mp reaches.fits
    exact sqrt_ends depth caller candidate request reaches.accepted named fits

theorem told_error_iff (method : CalculatorMethod)
    (reaches : Reaches caller dispatcher.registry candidate request method) (error : RpcError) :
    told depth caller candidate = .error error ↔ Fails request error := by
  refine ⟨fun ended => ?_, fails_told depth caller candidate request error reaches.accepted⟩
  rcases reached_ends depth caller candidate request method reaches with ⟨result, succeeded⟩ | ⟨other, fails⟩
  · rw [ended] at succeeded
    cases succeeded
  · have failed := fails_told depth caller candidate request other reaches.accepted fails
    rw [ended] at failed
    cases failed
    exact fails

theorem error_cases (error : RpcError) (ended : told depth caller candidate = .error error) :
    (∃ request, candidate.request = .ok request ∧ Fails request error) ∨
      (error.code ≠ ErrorCode.internalError.code ∧ error.shownData = none) := by
  by_cases reached : ∃ request method, Reaches caller dispatcher.registry candidate request method
  · obtain ⟨request, method, reaches⟩ := reached
    have fails := (told_error_iff depth caller candidate request method reaches error).mp ended
    exact .inl ⟨request, reaches.accepted, fails⟩
  · obtain ⟨_, _, other, failed, stage⟩ := Dispatcher.unreached_error (Dispatcher.callback depth) caller
      candidate dispatcher fun request method reaches => reached ⟨request, method, reaches⟩
    have same : other = error := Except.error.inj (failed.symm.trans ended)
    rw [same] at stage
    exact .inr ⟨stage.not_internal, by simp [RpcError.shownData, stage.bare]⟩

theorem internal_error_iff :
    (∃ error, told depth caller candidate = .error error ∧ error.code = ErrorCode.internalError.code) ↔
      ∃ request number, candidate.request = .ok request ∧ request.method = "sqrt" ∧
        request.params = [.num number] ∧ number.Negative := by
  constructor
  · rintro ⟨error, ended, code⟩
    rcases error_cases depth caller candidate error ended with ⟨request, accepted, fails⟩ | ⟨other, _⟩
    · cases fails with
      | root number named single negative => exact ⟨request, number, accepted, named, single, negative⟩
      | division => simp [divisionByZero, RpcError.withData, RpcError.invalidParams] at code
      | item => simp [RpcError.invalidParams] at code
    · exact absurd code other
  · rintro ⟨request, number, accepted, named, single, negative⟩
    exact ⟨_, fails_told depth caller candidate request _ accepted (.root number named single negative), rfl⟩

theorem data_iff (data : Json) :
    (∃ error, told depth caller candidate = .error error ∧ error.shownData = some data) ↔
      ∃ request dividend divisor, candidate.request = .ok request ∧ request.method = "divide" ∧
        request.params = [.num dividend, .num divisor] ∧ divisor.IsZero ∧
        data = .obj [("dividend", .num (.float dividend.toFloat dividend.to_float_finite))] := by
  constructor
  · rintro ⟨error, ended, shown⟩
    rcases error_cases depth caller candidate error ended with ⟨request, accepted, fails⟩ | ⟨_, other⟩
    · cases fails with
      | division dividend divisor named pair zero =>
          refine ⟨request, dividend, divisor, accepted, named, pair, zero, ?_⟩
          rw [← dividend.of_to_float]
          exact (Option.some.inj shown).symm
      | root => cases shown
      | item => cases shown
    · rw [other] at shown
      cases shown
  · rintro ⟨request, dividend, divisor, accepted, named, pair, zero, same⟩
    refine ⟨_, fails_told depth caller candidate request _ accepted (.division dividend divisor named pair zero), ?_⟩
    rw [same, ← dividend.of_to_float]
    rfl

theorem data_code (error : RpcError) (ended : told depth caller candidate = .error error) (data : Json)
    (shown : error.shownData = some data) : error.code = ErrorCode.invalidParams.code := by
  rcases error_cases depth caller candidate error ended with ⟨request, accepted, fails⟩ | ⟨_, other⟩
  · cases fails with
    | root => cases shown
    | _ => rfl
  · rw [other] at shown
    cases shown

theorem answers_each (input : Input) (sequence : UInt64) :
    (Dispatcher.dispatch depth input caller { dispatcher with sequence }).value.messages =
      input.candidates.flatMap fun candidate => (candidate.answered (told depth caller candidate)).toList := by
  let nested : String → Caller → Run Caller Unit Lifecycle Answer := Dispatcher.callback depth
  have answers := Dispatcher.answer_messages nested caller input { dispatcher with sequence }
  have each := Dispatcher.messages_each nested caller input.candidates { dispatcher with sequence } methods_functional
  have same (candidate : Candidate) :=
    Dispatcher.outcome_same nested caller candidate dispatcher { dispatcher with sequence } rfl rfl methods_functional
  simp only [same] at each
  exact answers.trans each

/-- An answer of the calculator has the code of an internal error only for the root of a negative number, and data only
for a division by zero. A sum fails at its first item that is no number, and no other call fails once it is made. -/
theorem calculator_errors (input : Input) (sequence : UInt64) :
    let messages := (Dispatcher.dispatch depth input caller { dispatcher with sequence }).value.messages
    messages = (input.candidates.flatMap fun candidate => (candidate.answered (told depth caller candidate)).toList) ∧
    ∀ candidate,
      let outcome := told depth caller candidate
      ((∃ error, outcome = .error error ∧ error.code = ErrorCode.internalError.code) ↔
        ∃ request number, candidate.request = .ok request ∧ request.method = "sqrt" ∧
          request.params = [.num number] ∧ number.Negative) ∧
      (∀ data, (∃ error, outcome = .error error ∧ error.shownData = some data) ↔
        ∃ request dividend divisor, candidate.request = .ok request ∧ request.method = "divide" ∧
          request.params = [.num dividend, .num divisor] ∧ divisor.IsZero ∧
          data = .obj [("dividend", .num (.float dividend.toFloat dividend.to_float_finite))]) ∧
      (∀ error, outcome = .error error → ∀ data, error.shownData = some data →
        error.code = ErrorCode.invalidParams.code) ∧
      (∀ request, candidate.request = .ok request → request.method = "sum" →
        let notNumber? := request.params.find? fun item => !item.isNumber
        (notNumber? = none → ∃ result, outcome = .ok result) ∧
        ∀ item, notNumber? = some item →
          ∃ text, item.Written text ∧ outcome = .error (.invalidParams ("Not a number: " ++ text))) ∧
      ∀ request method, Reaches caller dispatcher.registry candidate request method →
        ∀ error, outcome = .error error ↔ Fails request error := by
  refine ⟨answers_each depth caller input sequence, fun candidate => ⟨internal_error_iff depth caller candidate,
    data_iff depth caller candidate, data_code depth caller candidate, fun request accepted named =>
      ⟨sum_result depth caller candidate request accepted named, fun item first => ?_⟩,
    told_error_iff depth caller candidate⟩⟩
  have written := (item.written_iff item.render).mpr rfl
  exact ⟨_, written, fails_told depth caller candidate request _ accepted (.item item _ named first written)⟩

theorem zero_divisor_and_text_refused :
    let dividend : Number := .int 5 (by decide)
    let divisor : Number := .float (-0.0) (by decide)
    let call (id method : String) (params : List Json) : Json :=
      .obj [("id", .str id), ("jsonrpc", .str "2.0"), ("method", .str method), ("params", .arr params)]
    let calls : List Json :=
      [call "a" "divide" [.num dividend, .num divisor], call "b" "sum" [.num dividend, .str "x\n", .null]]
    let data : Json := .obj [("dividend", .num (.float dividend.toFloat dividend.to_float_finite))]
    (Dispatcher.dispatch 0 (.document (.arr calls)) ⟨"me"⟩ { dispatcher with sequence := 7 }).value.messages =
      [.failure (.string "a") ((RpcError.invalidParams "Division by zero").withData data),
        .failure (.string "b") (.invalidParams "Not a number: \"x\\n\"")] := by
  intro dividend divisor call calls data
  obtain ⟨answers, each⟩ := calculator_errors 0 ⟨"me"⟩ (.document (.arr calls)) 7
  let candidate (id method : String) (params : List Json) : Candidate := .value (call id method params)
  let request (id method : String) (params : List Json) : Request :=
    { method, params, id := some (.string id), extra := [] }
  have reaches : Reaches ⟨"me"⟩ dispatcher.registry (candidate "a" "divide" [.num dividend, .num divisor])
      (request "a" "divide" [.num dividend, .num divisor]) divide := ⟨⟨_, rfl⟩, rfl, rfl, _, _, rfl⟩
  have divided := ((each _).2.2.2.2 _ divide reaches (divisionByZero dividend.toFloat)).mpr
    (.division dividend divisor rfl rfl (.inr rfl))
  obtain ⟨text, written, summed⟩ := ((each (candidate "b" "sum" [.num dividend, .str "x\n", .null])).2.2.2.1
    (request "b" "sum" [.num dividend, .str "x\n", .null]) rfl rfl).2 (.str "x\n") rfl
  have quoted : text = "\"x\\n\"" := (Json.written_iff _ text).mp written
  have two : (Input.document (.arr calls)).candidates =
      [candidate "a" "divide" [.num dividend, .num divisor], candidate "b" "sum" [.num dividend, .str "x\n", .null]] :=
    rfl
  rw [answers, two, List.flatMap_cons, List.flatMap_singleton, divided, summed, quoted, divisionByZero,
    dividend.of_to_float]
  rfl

end Calculator

end JsonRpc
