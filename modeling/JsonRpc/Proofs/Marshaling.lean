import Mathlib.Data.List.Forall2
import JsonRpc.Handler

set_option autoImplicit false

namespace JsonRpc

variable {C M : Type}

def ParamType.Converts (type : ParamType) (value : Json) : Prop :=
  ∃ converted, type.decoder.decode value = .ok converted

-- There are as many parameters as types, each of its own type; but a single document takes any number
-- of them.
def ParamType.Fit (types : List ParamType) (params : List Json) : Prop :=
  takesAll types = true ∨ List.Forall₂ Converts types params

inductive Method.Takes : Method C M → List ParamType → Prop
  | plain (types : List ParamType) (body : ParamType.Tuple types → Action C M) : Takes (.plain types body) types
  | withContext (types : List ParamType) (body : Context C → ParamType.Tuple types → Action C M) :
      Takes (.withContext types body) types

def Method.Marshals (method : Method C M) (context : Context C) (params : List Json) : Prop :=
  ∃ arguments action, method.marshal context params = .ok (arguments, action)

theorem Method.marshal_start (method : Method C M) (context : Context C) (params : List Json) (arguments : Arguments)
    (action : Action C M) (fits : method.marshal context params = .ok (arguments, action)) :
    Arguments.bind method.shape params = .ok arguments ∧ method.start context arguments = .ok action := by
  simp only [marshal] at fits
  cases bound : Arguments.bind method.shape params with
  | error misfit => simp [bound, bind, Except.bind] at fits
  | ok values =>
      cases started : method.start context values with
      | error misfit => simp [bound, started, bind, Except.bind] at fits
      | ok next =>
          simp only [bound, started, bind, Except.bind, pure, Except.pure, Except.ok.injEq, Prod.mk.injEq] at fits
          obtain ⟨rfl, rfl⟩ := fits
          exact ⟨rfl, started⟩

theorem Method.plain_started (types : List ParamType) (body : ParamType.Tuple types → Action C M) (context : Context C)
    (arguments : Arguments) (action : Action C M) (started : (plain types body).start context arguments = .ok action) :
    ∃ values, body values = action := by
  cases taken : arguments.take types with
  | error misfit => simp [plain, taken, Except.map] at started
  | ok values => exact ⟨values, by simpa [plain, taken, Except.map] using started⟩

inductive Handler (C M : Type) (types : List ParamType) where
  | plain (body : ParamType.Tuple types → Action C M)
  | withContext (body : Context C → ParamType.Tuple types → Action C M)

namespace Handler

variable {types : List ParamType}

def method : Handler C M types → Method C M
  | .plain body => .plain types body
  | .withContext body => .withContext types body

def body : Handler C M types → Context C → ParamType.Tuple types → Action C M
  | .plain body, _ => body
  | .withContext body, context => body context

def takesContext : Handler C M types → Bool
  | .plain _ => false
  | .withContext _ => true

theorem method_shape (handler : Handler C M types) : handler.method.shape = .ofTypes types handler.takesContext := by
  cases handler <;> rfl

theorem method_start (handler : Handler C M types) (context : Context C) (arguments : Arguments) :
    handler.method.start context arguments = (arguments.take types).map (handler.body context) := by
  cases handler <;> rfl

end Handler

namespace ParamType

inductive Converted : (types : List ParamType) → List Json → Tuple types → Prop
  | nil : Converted [] [] ()
  | cons (type : ParamType) (types : List ParamType) (value : Json) (rest : List Json) (converted : type.Carrier)
      (values : Tuple types) (first : type.decoder.decode value = .ok converted) (later : Converted types rest values) :
      Converted (type :: types) (value :: rest) (converted, values)

inductive FirstMisfit (error : DecodeError) : List ParamType → List Json → Prop
  | here (type : ParamType) (types : List ParamType) (value : Json) (rest : List Json)
      (fails : type.decoder.decode value = .error error) : FirstMisfit error (type :: types) (value :: rest)
  | later (type : ParamType) (types : List ParamType) (value : Json) (rest : List Json) (fits : type.Converts value)
      (misfit : FirstMisfit error types rest) : FirstMisfit error (type :: types) (value :: rest)

-- The arguments for a body. A document that is the only parameter is the list of all that was given.
inductive Supplied : (types : List ParamType) → List Json → Tuple types → Prop
  | whole (params : List Json) : Supplied [.json] params (.arr params, ())
  | each (types : List ParamType) (params : List Json) (values : Tuple types) (several : types ≠ [.json])
      (converted : Converted types params values) : Supplied types params values

inductive Refused (types : List ParamType) (params : List Json) : String → Prop
  | count (several : types ≠ [.json]) (differs : params.length ≠ types.length) :
      Refused types params "Invalid parameters passed to method"
  | value (several : types ≠ [.json]) (same : params.length = types.length) (error : DecodeError)
      (misfit : FirstMisfit error types params) : Refused types params error.message

def bound (types : List ParamType) (params : List Json) : List Json :=
  if takesAll types then [.arr params] else params

theorem Converted.length (types : List ParamType) (params : List Json) (values : Tuple types)
    (converted : Converted types params values) : params.length = types.length := by
  induction converted with
  | nil => rfl
  | cons _ _ _ _ _ _ _ _ ih => simp [ih]

end ParamType

open ParamType

theorem take_converted (types : List ParamType) (params : List Json) (values : Tuple types)
    (converted : Converted types params values) : Arguments.take types ⟨params⟩ = .ok values := by
  induction converted with
  | nil => rfl
  | cons type types value rest converted values first later ih =>
      simp [Arguments.take, Arguments.next, Arguments.convert, first, ih, Except.mapError, Except.map]

theorem take_misfit (types : List ParamType) (params : List Json) (error : DecodeError)
    (misfit : FirstMisfit error types params) : Arguments.take types ⟨params⟩ = .error (.value error) := by
  induction misfit with
  | here type types value rest fails =>
      simp [Arguments.take, Arguments.next, Arguments.convert, fails, Except.mapError]
  | later type types value rest fits misfit ih =>
      obtain ⟨converted, first⟩ := fits
      simp [Arguments.take, Arguments.next, Arguments.convert, first, ih, Except.mapError, Except.map]

theorem converted_or_misfit (types : List ParamType) (params : List Json) (same : params.length = types.length) :
    (∃ values, Converted types params values) ∨ ∃ error, FirstMisfit error types params := by
  induction types generalizing params with
  | nil =>
      have none : params = [] := by simpa using same
      exact .inl ⟨(), none ▸ .nil⟩
  | cons type types ih =>
      cases params with
      | nil => simp at same
      | cons value rest =>
          cases first : type.decoder.decode value with
          | error error => exact .inr ⟨error, .here type types value rest first⟩
          | ok converted =>
              rcases ih rest (by simpa using same) with ⟨values, later⟩ | ⟨error, misfit⟩
              · exact .inl ⟨(converted, values), .cons type types value rest converted values first later⟩
              · exact .inr ⟨error, .later type types value rest ⟨converted, first⟩ misfit⟩

theorem takes_all_iff (types : List ParamType) : ParamType.takesAll types = true ↔ types = [.json] := by
  unfold ParamType.takesAll
  split <;> simp_all

theorem takes_all_false (types : List ParamType) (several : types ≠ [.json]) : ParamType.takesAll types = false := by
  rwa [← Bool.not_eq_true, takes_all_iff]

theorem bind_several (types : List ParamType) (context : Bool) (params : List Json) (several : types ≠ [.json]) :
    Arguments.bind (.ofTypes types context) params =
      if params.length = types.length then .ok ⟨params⟩ else .error .count := by
  simp [Arguments.bind, ParamShape.ofTypes, takes_all_false types several]

theorem bind_take (types : List ParamType) (context : Bool) (params : List Json) (values : Tuple types)
    (supplied : Supplied types params values) :
    Arguments.bind (.ofTypes types context) params = .ok ⟨bound types params⟩ ∧
      Arguments.take types ⟨bound types params⟩ = .ok values := by
  cases supplied with
  | whole params => exact ⟨rfl, rfl⟩
  | each types params values several converted =>
      have unchanged : bound types params = params := by simp [bound, takes_all_false types several]
      rw [bind_several types context params several, if_pos converted.length, unchanged]
      exact ⟨rfl, take_converted types params values converted⟩

theorem bind_take_refused (types : List ParamType) (context : Bool) (params : List Json) (text : String)
    (refused : Refused types params text) :
    ∃ misfit : Misfit, misfit.message = text ∧
      (Arguments.bind (.ofTypes types context) params >>= fun arguments => arguments.take types) = .error misfit := by
  cases refused with
  | count several differs =>
      refine ⟨.count, rfl, ?_⟩
      rw [bind_several types context params several, if_neg differs]
      rfl
  | value several same error misfit =>
      refine ⟨.value error, rfl, ?_⟩
      rw [bind_several types context params several, if_pos same]
      exact take_misfit types params error misfit

theorem supplied_or_refused (types : List ParamType) (params : List Json) :
    (∃ values, Supplied types params values) ∨ ∃ text, Refused types params text := by
  by_cases several : types = [.json]
  · subst several
    exact .inl ⟨_, .whole params⟩
  by_cases same : params.length = types.length
  · rcases converted_or_misfit types params same with ⟨values, converted⟩ | ⟨error, misfit⟩
    · exact .inl ⟨values, .each types params values several converted⟩
    · exact .inr ⟨_, .value several same error misfit⟩
  · exact .inr ⟨_, .count several same⟩

theorem converted_iff (types : List ParamType) (params : List Json) :
    (∃ values, Converted types params values) ↔ List.Forall₂ Converts types params := by
  constructor
  · rintro ⟨values, converted⟩
    induction converted with
    | nil => exact .nil
    | cons _ _ _ _ value _ first _ ih => exact .cons ⟨value, first⟩ ih
  · intro fit
    induction fit with
    | nil => exact ⟨(), .nil⟩
    | cons fits _ ih =>
        obtain ⟨value, first⟩ := fits
        obtain ⟨values, later⟩ := ih
        exact ⟨(value, values), .cons _ _ _ _ value values first later⟩

theorem supplied_iff (types : List ParamType) (params : List Json) :
    (∃ values, Supplied types params values) ↔ Fit types params := by
  constructor
  · rintro ⟨values, supplied⟩
    cases supplied with
    | whole => exact .inl rfl
    | each _ _ _ _ converted => exact .inr ((converted_iff types params).mp ⟨values, converted⟩)
  · intro fit
    by_cases several : types = [.json]
    · subst several
      exact ⟨_, .whole params⟩
    · have converts := fit.resolve_left (by simp [takes_all_false types several])
      obtain ⟨values, converted⟩ := (converted_iff types params).mpr converts
      exact ⟨values, .each types params values several converted⟩

namespace Handler

variable {types : List ParamType}

theorem marshal_supplied (handler : Handler C M types) (context : Context C) (params : List Json) (values : Tuple types)
    (supplied : Supplied types params values) :
    handler.method.marshal context params = .ok (⟨bound types params⟩, handler.body context values) := by
  obtain ⟨fits, taken⟩ := bind_take types handler.takesContext params values supplied
  simp only [Method.marshal, method_shape, fits, bind, Except.bind, method_start, taken]
  rfl

theorem marshal_refused (handler : Handler C M types) (context : Context C) (params : List Json) (text : String)
    (refused : Refused types params text) :
    ∃ misfit : Misfit, misfit.message = text ∧ handler.method.marshal context params = .error misfit := by
  obtain ⟨misfit, told, failed⟩ := bind_take_refused types handler.takesContext params text refused
  refine ⟨misfit, told, ?_⟩
  simp only [Method.marshal, method_shape, method_start]
  cases fits : Arguments.bind (.ofTypes types handler.takesContext) params with
  | error other =>
      rw [fits] at failed
      cases failed
      rfl
  | ok arguments =>
      rw [fits] at failed
      simp only [bind, Except.bind] at failed ⊢
      rw [failed]
      rfl

theorem marshals_iff_fit (handler : Handler C M types) (context : Context C) (params : List Json) :
    handler.method.Marshals context params ↔ Fit types params := by
  rw [← supplied_iff]
  constructor
  · rintro ⟨arguments, action, fits⟩
    rcases supplied_or_refused types params with supplied | ⟨text, refused⟩
    · exact supplied
    · obtain ⟨misfit, _, unfit⟩ := handler.marshal_refused context params text refused
      rw [unfit] at fits
      cases fits
  · rintro ⟨values, supplied⟩
    exact ⟨_, _, handler.marshal_supplied context params values supplied⟩

end Handler

theorem marshals_iff (method : Method C M) (types : List ParamType) (takes : method.Takes types) (context : Context C)
    (params : List Json) : method.Marshals context params ↔ ParamType.Fit types params := by
  cases takes with
  | plain types body => exact (Handler.plain body).marshals_iff_fit context params
  | withContext types body => exact (Handler.withContext body).marshals_iff_fit context params

end JsonRpc
