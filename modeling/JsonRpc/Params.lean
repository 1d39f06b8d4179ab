import JsonRpc.Decode.Decoder
import JsonRpc.RpcError

set_option autoImplicit false

namespace JsonRpc

-- The type of a declared parameter. Any document fits `json`; alone, it takes the whole list of
-- parameters as one document.
inductive ParamType : Type 1 where
  | json
  | typed (Carrier : Type) (decoder : Decoder Carrier)

namespace ParamType

@[reducible] def Carrier : ParamType → Type
  | json => Json
  | typed Carrier _ => Carrier

def decoder : (type : ParamType) → Decoder type.Carrier
  | json => Decoder.any
  | typed _ decoder => decoder

def Tuple : List ParamType → Type
  | [] => Unit
  | type :: rest => type.Carrier × Tuple rest

def takesAll : List ParamType → Bool
  | [.json] => true
  | _ => false

end ParamType

structure ParamShape where
  positional : Nat
  context : Bool
  verbatim : Bool
deriving DecidableEq

namespace ParamShape

def ofTypes (types : List ParamType) (context : Bool) : ParamShape :=
  { positional := types.length, context, verbatim := ParamType.takesAll types }

def arity (shape : ParamShape) : Nat := shape.positional + if shape.context then 1 else 0

end ParamShape

inductive Misfit where
  | count
  | value (error : DecodeError)

namespace Misfit

def message : Misfit → String
  | count => "Invalid parameters passed to method"
  | value error => error.message

def toRpcError (misfit : Misfit) : RpcError := .invalidParams misfit.message

end Misfit

structure Arguments where
  values : List Json

namespace Arguments

def bind (shape : ParamShape) (params : List Json) : Except Misfit Arguments :=
  if shape.verbatim then .ok ⟨[.arr params]⟩
  else if params.length = shape.positional then .ok ⟨params⟩
  else .error .count

def convert (type : ParamType) (value : Json) : Except Misfit type.Carrier :=
  (type.decoder.decode value).mapError .value

-- Converts the next value, which is used up even if it does not convert.
def next (type : ParamType) : Arguments → Except Misfit type.Carrier × Arguments
  | ⟨[]⟩ => (.error .count, ⟨[]⟩)
  | ⟨value :: rest⟩ => (convert type value, ⟨rest⟩)

def take : (types : List ParamType) → Arguments → Except Misfit (ParamType.Tuple types)
  | [], _ => .ok ()
  | type :: types, arguments =>
      match arguments.next type with
      | (.error error, _) => .error error
      | (.ok value, rest) => (take types rest).map fun values => (value, values)

end Arguments

end JsonRpc
