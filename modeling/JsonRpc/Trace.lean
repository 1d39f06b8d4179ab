import JsonRpc.Context
import JsonRpc.Log.Record
import JsonRpc.Message

set_option autoImplicit false

namespace JsonRpc

-- A call of an observer. A request whose method is not known yet is reported under the empty name.
inductive HookCall (C : Type) where
  | beforeRequest (raw : Json) (context : Context C)
  | beforeInvoke (method : String) (context : Context C)
  | afterRequest (method : String) (outcome : Except RpcError Json) (context : Context C)

inductive Notice where
  | registered (method : String)
  | duplicate (method : String)
  | batch (entries : Nat)
  | rejected (error : RpcError)
  | invalid (error : RpcError)
  | dispatching (method : String) (id : Option RequestId)
  | failed (method : String) (error : RpcError)
  | notification (method : String)

namespace Notice

def registryTarget : String := "turul_json_rpc_dispatcher::registry"

def dispatchTarget : String := "turul_json_rpc_dispatcher::dispatch"

def ofRegistration (method : String) (added : Bool) : Notice :=
  if added then .registered method else .duplicate method

def errorFields (error : RpcError) : List Log.Field :=
  [⟨"code", toString error.code.toInt⟩, ⟨"error", error.message⟩]

def idText : Option RequestId → String
  | none => "None"
  | some id => "Some(" ++ id.debug ++ ")"

def record : Notice → Log.Record
  | .registered method => ⟨.debug, registryTarget, "Registered JSON-RPC method", [⟨"method", method⟩]⟩
  | .duplicate method =>
      ⟨.warn, registryTarget, "Ignoring duplicate registration of JSON-RPC method", [⟨"method", method⟩]⟩
  | .batch entries => ⟨.debug, dispatchTarget, "Processing JSON-RPC batch", [⟨"entries", toString entries⟩]⟩
  | .rejected error => ⟨.warn, dispatchTarget, "Rejected malformed JSON-RPC request", errorFields error⟩
  | .invalid error => ⟨.debug, dispatchTarget, "Invalid JSON-RPC request", errorFields error⟩
  | .dispatching method id =>
      ⟨.debug, dispatchTarget, "Dispatching JSON-RPC request", [⟨"method", method⟩, ⟨"id", idText id⟩]⟩
  | .failed method error =>
      ⟨.debug, dispatchTarget, "JSON-RPC request failed", ⟨"method", method⟩ :: errorFields error⟩
  | .notification method =>
      ⟨.debug, dispatchTarget, "Notification processed, no response", [⟨"method", method⟩]⟩

end Notice

-- `H` is the type of observers. A handler that is entered is known by its method's name, the
-- context if it takes one, and the arguments as they were bound.
inductive Event (C H : Type) where
  | hook (observer : H) (call : HookCall C)
  | notice (notice : Notice)
  | log (record : Log.Record)
  | entered (method : String) (context : Option (Context C)) (arguments : List Json)

structure Entry (C H : Type) where
  spans : List UInt64
  event : Event C H

def Entry.within {C H : Type} (sequence : UInt64) (entry : Entry C H) : Entry C H :=
  { entry with spans := sequence :: entry.spans }

def requestSpan (sequence : UInt64) : Log.Span :=
  ⟨.debug, Notice.dispatchTarget, "jsonrpc_request", [⟨"seq", toString sequence.toNat⟩]⟩

end JsonRpc
