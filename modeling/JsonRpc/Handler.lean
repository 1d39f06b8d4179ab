import JsonRpc.Context
import JsonRpc.Invocation
import JsonRpc.Log.Record
import JsonRpc.Params

set_option autoImplicit false

namespace JsonRpc

inductive Outcome where
  | value (result : Json)
  | unencodable (error : Json.Error)
  | failed (error : HandlerError)

def Outcome.toResult : Outcome → Except InvocationError Json
  | .value result => .ok result
  | .unencodable error => .error (.result error)
  | .failed error => .error (.handler error)

def Outcome.ofResult : Except HandlerError (Except Json.Error Json) → Outcome
  | .ok (.ok result) => .value result
  | .ok (.error error) => .unencodable error
  | .error error => .failed error

mutual
-- What a handler does, step by step: it may log, use a memory that outlives the call, and call
-- back into the dispatcher, before it ends. `C` is the type of the caller's value, `M` that of
-- the memory.
inductive Action (C M : Type) : Type
  | finish (outcome : Outcome)
  | log (record : Log.Record) (next : Action C M)
  | remember (update : M → M) (next : M → Action C M)
  | dispatch (text : String) (data : C) (next : Answer → Action C M)
  | register (name : String) (method : Method C M) (next : Bool → Action C M)
structure Method (C M : Type) : Type where
  shape : ParamShape
  start : Context C → Arguments → Except Misfit (Action C M)
end

namespace Action

variable {C M : Type}

def succeed (result : Json) : Action C M := .finish (.value result)

def fail (error : HandlerError) : Action C M := .finish (.failed error)

end Action

namespace Method

variable {C M : Type}

def plain (types : List ParamType) (body : ParamType.Tuple types → Action C M) : Method C M where
  shape := .ofTypes types false
  start _ arguments := (arguments.take types).map body

def withContext (types : List ParamType) (body : Context C → ParamType.Tuple types → Action C M) :
    Method C M where
  shape := .ofTypes types true
  start context arguments := (arguments.take types).map (body context)

def marshal (method : Method C M) (context : Context C) (params : List Json) :
    Except Misfit (Arguments × Action C M) := do
  let arguments ← Arguments.bind method.shape params
  let action ← method.start context arguments
  pure (arguments, action)

end Method

end JsonRpc
