import JsonRpc.Proofs.Marshaling
import JsonRpc.Request

set_option autoImplicit false

namespace JsonRpc

open ParamType

variable {C M : Type}

def ParamType.answer (type : ParamType) : Option Json → Except RpcError type.Carrier
  | some value => (type.decoder.decode value).mapError fun error => .invalidParams error.message
  | none => .error (.invalidParams "Invalid parameters passed to method")

namespace Arguments

def after (earlier : List ParamType) (arguments : Arguments) : Arguments :=
  earlier.foldl (fun left type => (left.next type).2) arguments

def taking : (types : List ParamType) → Arguments → Except Misfit (Tuple types) × Arguments
  | [], arguments => (.ok (), arguments)
  | type :: types, arguments =>
      match arguments.next type with
      | (.error misfit, left) => (.error misfit, left)
      | (.ok value, left) =>
          let later := taking types left
          (later.1.map fun values => (value, values), later.2)

theorem next_leaves (type : ParamType) (arguments : Arguments) :
    (arguments.next type).2.values = arguments.values.drop 1 := by
  obtain ⟨_ | ⟨value, rest⟩⟩ := arguments <;> rfl

theorem next_answers (type : ParamType) (arguments : Arguments) :
    (arguments.next type).1.mapError Misfit.toRpcError = type.answer arguments.values[0]? := by
  obtain ⟨values⟩ := arguments
  cases values with
  | nil => rfl
  | cons value rest =>
      simp only [next, convert, answer, List.getElem?_cons_zero]
      cases type.decoder.decode value <;> rfl

theorem after_leaves (earlier : List ParamType) (arguments : Arguments) :
    (arguments.after earlier).values = arguments.values.drop earlier.length := by
  induction earlier generalizing arguments with
  | nil => rfl
  | cons type earlier ih =>
      have step : arguments.after (type :: earlier) = (arguments.next type).2.after earlier := rfl
      rw [step, ih, next_leaves, List.drop_drop, List.length_cons, Nat.add_comm]

theorem call_answers (earlier : List ParamType) (type : ParamType) (arguments : Arguments) :
    ((arguments.after earlier).next type).1.mapError Misfit.toRpcError =
      type.answer arguments.values[earlier.length]? := by
  rw [next_answers, after_leaves, List.getElem?_drop, Nat.add_zero]

theorem call_finds (types : List ParamType) (arguments : Arguments) (enough : arguments.values.length = types.length)
    (earlier : List ParamType) (type : ParamType) (later : List ParamType) (split : types = earlier ++ type :: later) :
    (arguments.after earlier).values ≠ [] := by
  have places : types.length = earlier.length + (later.length + 1) := by
    rw [split, List.length_append, List.length_cons]
  apply List.ne_nil_of_length_pos
  rw [after_leaves, List.length_drop]
  omega

theorem bind_iff (shape : ParamShape) (params : List Json) :
    (∃ arguments, Arguments.bind shape params = .ok arguments) ↔
      shape.verbatim = true ∨ params.length = shape.positional := by
  unfold Arguments.bind
  split_ifs <;> simp_all

theorem bind_values (shape : ParamShape) (params : List Json) (arguments : Arguments)
    (fits : Arguments.bind shape params = .ok arguments) :
    arguments.values = if shape.verbatim then [.arr params] else params := by
  unfold Arguments.bind at fits
  split_ifs at fits ⊢ <;> cases fits <;> rfl

theorem bind_fails (shape : ParamShape) (params : List Json) (misfit : Misfit)
    (fails : Arguments.bind shape params = .error misfit) : misfit = .count := by
  unfold Arguments.bind at fails
  split_ifs at fails
  cases fails
  rfl

theorem verbatim_single (types : List ParamType) (context : Bool)
    (single : (ParamShape.ofTypes types context).verbatim = true) :
    (ParamShape.ofTypes types context).positional = 1 := by
  rw [(takes_all_iff types).mp single]
  rfl

theorem bind_length (types : List ParamType) (context : Bool) (params : List Json) (arguments : Arguments)
    (fits : Arguments.bind (.ofTypes types context) params = .ok arguments) :
    arguments.values.length = types.length := by
  have values := bind_values _ params arguments fits
  by_cases single : (ParamShape.ofTypes types context).verbatim = true
  · rw [values, if_pos single]
    exact (verbatim_single types context single).symm
  · rw [values, if_neg single]
    exact ((bind_iff _ params).mp ⟨arguments, fits⟩).resolve_left single

theorem taking_takes (types : List ParamType) (arguments : Arguments) :
    (taking types arguments).1 = take types arguments := by
  induction types generalizing arguments with
  | nil => rfl
  | cons type types ih =>
      unfold taking take
      rcases arguments.next type with ⟨_ | value, left⟩
      · rfl
      · simp only [ih]

theorem taking_leaves (types : List ParamType) (arguments : Arguments) (values : Tuple types)
    (taken : (taking types arguments).1 = .ok values) : (taking types arguments).2 = arguments.after types := by
  induction types generalizing arguments with
  | nil => rfl
  | cons type types ih =>
      have step : arguments.after (type :: types) = (arguments.next type).2.after types := rfl
      rw [step]
      unfold taking at taken ⊢
      generalize arguments.next type = called at taken ⊢
      obtain ⟨_ | value, left⟩ := called
      · simp at taken
      · cases later : (taking types left).1 with
        | error misfit => simp [later, Except.map] at taken
        | ok rest => exact ih left rest later

theorem take_not_exhausted (types : List ParamType) (arguments : Arguments)
    (enough : arguments.values.length = types.length) : take types arguments ≠ .error .count := by
  rcases converted_or_misfit types arguments.values enough with ⟨values, converted⟩ | ⟨error, misfit⟩
  · simp [take_converted types arguments.values values converted]
  · simp [take_misfit types arguments.values error misfit]

end Arguments

namespace Handler

variable {types : List ParamType}

theorem start_not_exhausted (handler : Handler C M types) (context : Context C) (arguments : Arguments)
    (enough : arguments.values.length = types.length) : handler.method.start context arguments ≠ .error .count := by
  have failed := Arguments.take_not_exhausted types arguments enough
  rw [handler.method_start]
  cases taken : arguments.take types with
  | error misfit => simpa [taken, Except.map] using failed
  | ok values => simp [Except.map]

theorem start_takes_all (handler : Handler C M types) (context : Context C) (arguments : Arguments)
    (enough : arguments.values.length = types.length) (action : Action C M)
    (started : handler.method.start context arguments = .ok action) :
    ∃ values, arguments.taking types = (.ok values, ⟨[]⟩) ∧ action = handler.body context values := by
  rw [handler.method_start] at started
  cases taken : arguments.take types with
  | error misfit => simp [taken, Except.map] at started
  | ok values =>
      rw [taken] at started
      rw [← Arguments.taking_takes] at taken
      have none : (arguments.after types).values = [] := by
        rw [Arguments.after_leaves, ← enough, List.drop_length]
      refine ⟨values, Prod.ext taken ?_, ?_⟩
      · rw [Arguments.taking_leaves types arguments values taken]
        exact congrArg Arguments.mk none
      · exact (Except.ok.inj started).symm

end Handler

/-- A call for the next argument takes the value at its place whatever became of the calls before it, and is told of
the value alone. A handler's own calls never find the values used up, and leave none when its body runs. -/
theorem each_call_takes_its_own (params : List Json) :
    (∀ shape : ParamShape,
      ((∃ arguments, Arguments.bind shape params = .ok arguments) ↔
        shape.verbatim = true ∨ params.length = shape.positional) ∧
      (∀ misfit, Arguments.bind shape params = .error misfit →
        misfit.toRpcError = .invalidParams "Invalid parameters passed to method") ∧
      ∀ arguments, Arguments.bind shape params = .ok arguments →
        let bound := if shape.verbatim then [.arr params] else params
        ∀ (earlier : List ParamType) (type : ParamType),
          ((arguments.after earlier).next type).1.mapError Misfit.toRpcError = type.answer bound[earlier.length]?) ∧
    ∀ (types : List ParamType) (context : Bool),
      let shape := ParamShape.ofTypes types context
      (shape.verbatim = true → shape.positional = 1) ∧
      (∀ arguments, (Arguments.taking types arguments).1 = Arguments.take types arguments) ∧
      ∀ arguments, Arguments.bind shape params = .ok arguments →
        arguments.values.length = shape.positional ∧
        (∀ earlier type later, types = earlier ++ type :: later → (arguments.after earlier).values ≠ []) ∧
        ∀ (handler : Handler C M types) (given : Context C), handler.takesContext = context →
          let started := handler.method.start given arguments
          handler.method.shape = shape ∧ started ≠ .error .count ∧
          ∀ action, started = .ok action →
            ∃ values, arguments.taking types = (.ok values, ⟨[]⟩) ∧ action = handler.body given values := by
  refine ⟨fun shape => ⟨Arguments.bind_iff shape params, fun misfit fails => ?_, fun arguments fits => ?_⟩,
    fun types context => ⟨Arguments.verbatim_single types context, Arguments.taking_takes types,
      fun arguments fits => ?_⟩⟩
  · rw [Arguments.bind_fails shape params misfit fails]
    rfl
  · intro bound earlier type
    rw [Arguments.call_answers, Arguments.bind_values shape params arguments fits]
  · have enough := Arguments.bind_length types context params arguments fits
    refine ⟨enough, Arguments.call_finds types arguments enough, fun handler given kind => ⟨?_,
      handler.start_not_exhausted given arguments enough, handler.start_takes_all given arguments enough⟩⟩
    rw [handler.method_shape, kind]

theorem supplies_past_a_misfit :
    let shape : ParamShape := { positional := 2, context := false, verbatim := false }
    let string : ParamType := .typed String Decoder.string
    let bool : ParamType := .typed Bool Decoder.bool
    let request : ParamType := .typed Request Request.decoder
    let nameless : Json := .obj [("jsonrpc", .str "2.0"), ("method", .str "")]
    let turn : Handler Unit Unit [.json, string] :=
      .plain fun (first, second, ()) => .succeed (.arr [.str second, first])
    let arguments : Arguments := ⟨[nameless, .str "b"]⟩
    let told (earlier : List ParamType) (type : ParamType) : Except RpcError type.Carrier :=
      ((arguments.after earlier).next type).1.mapError Misfit.toRpcError
    Arguments.bind shape arguments.values = .ok arguments ∧
      told [] bool = .error (.invalidParams "invalid type: map, expected a boolean") ∧
      told [] request = .error (.invalidParams "Method cannot be empty") ∧
      told [request] string = .ok "b" ∧
      told [request, string] .json = .error (.invalidParams "Invalid parameters passed to method") ∧
      turn.method.start (.ofCaller ()) arguments ≠ .error .count ∧
      ∃ values, arguments.taking [.json, string] = (.ok values, ⟨[]⟩) := by
  intro shape string bool request nameless turn arguments told
  have law := each_call_takes_its_own (C := Unit) (M := Unit) arguments.values
  have answers := (law.1 shape).2.2 arguments rfl
  have supplied := ((law.2 [.json, string] false).2.2 arguments rfl).2.2 turn (.ofCaller ()) rfl
  refine ⟨rfl, answers [] bool, answers [] request, answers [request] string, answers [request, string] .json,
    supplied.2.1, ?_⟩
  obtain ⟨values, taken, _⟩ := supplied.2.2 _ rfl
  exact ⟨values, taken⟩

end JsonRpc
