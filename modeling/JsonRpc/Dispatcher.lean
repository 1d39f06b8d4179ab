import JsonRpc.Json.Draft
import JsonRpc.Request
import JsonRpc.Run

set_option autoImplicit false

namespace JsonRpc

namespace Dispatcher

variable {C M H : Type}

def create (observer : Option H) (memory : M) : Dispatcher C M H :=
  { registry := .empty, observer, sequence := 0, memory }

def add (name : String) (method : Method C M) : Run C M H Bool := Run.register name method

def methods (dispatcher : Dispatcher C M H) : List String := dispatcher.registry.names

def requestsSeen (dispatcher : Dispatcher C M H) : UInt64 := dispatcher.sequence

def debug (dispatcher : Dispatcher C M H) : String :=
  "JsonRpcDispatcher \x7b registry: " ++ dispatcher.registry.debug ++ ", sequence: " ++
    toString dispatcher.sequence.toNat ++ ", .. \x7d"

def emptyBatch : String := "Empty batch request"

def reject (raw : Json) (data : C) (error : RpcError) : Run C M H Message := Run.inSpan do
  let context := Context.ofCaller data
  Run.notify (.beforeRequest raw context)
  Run.emit (.notice (.rejected error))
  Run.notify (.afterRequest "" (.error error) context)
  pure (.failure .null error)

-- Calls a method. The observer hears of it before the parameters are converted, the handler is
-- entered after.
def call (nested : String → C → Run C M H Answer) (method : Method C M) (request : Request)
    (context : Context C) : Run C M H (Except RpcError Json) := do
  Run.notify (.beforeInvoke request.method context)
  match method.marshal context request.params with
  | .error misfit => pure (.error misfit.toRpcError)
  | .ok (arguments, action) => do
      let given := if method.shape.context then some context else none
      Run.emit (.entered request.method given arguments.values)
      let outcome ← Run.perform nested action
      pure (outcome.toResult.mapError InvocationError.toRpcError)

def invoke (nested : String → C → Run C M H Answer) (request : Request) (context : Context C) :
    Run C M H (Except RpcError Json) := do
  match ← Run.lookup request.method with
  | none => pure (.error .methodNotFound)
  | some method => call nested method request context

def logFailure (method : String) : Except RpcError Json → Run C M H Unit
  | .ok _ => pure ()
  | .error error => Run.emit (.notice (.failed method error))

def reply (request : Request) (outcome : Except RpcError Json) : Run C M H (Option Message) :=
  match request.id with
  | some id => pure (some (.ofOutcome id outcome))
  | none => do
      Run.emit (.notice (.notification request.method))
      pure none

def processAccepted (nested : String → C → Run C M H Answer) (request : Request) (data : C) :
    Run C M H (Option Message) := do
  let context : Context C := { data, extra := request.extra }
  Run.emit (.notice (.dispatching request.method request.id))
  let outcome ← invoke nested request context
  logFailure request.method outcome
  Run.notify (.afterRequest request.method outcome context)
  reply request outcome

def processInvalid (raw : Json) (data : C) (error : RpcError) : Run C M H (Option Message) := do
  Run.emit (.notice (.invalid error))
  Run.notify (.afterRequest "" (.error error) (Context.ofCaller data))
  pure (some (.failure (Request.tentativeId raw) error))

def processOne (nested : String → C → Run C M H Answer) (raw : Json) (data : C) :
    Run C M H (Option Message) := Run.inSpan do
  Run.notify (.beforeRequest raw (Context.ofCaller data))
  match Request.ofJson raw with
  | .error error => processInvalid raw data error
  | .ok request => processAccepted nested request data

-- An entry of a batch that is not an object is rejected; a list among the entries is no batch.
def processEntry (nested : String → C → Run C M H Answer) (data : C) (entry : Json) :
    Run C M H (Option Message) :=
  if entry.isObject then processOne nested entry data
  else do
    let message ← reject entry data (.invalidRequest Request.notRequest)
    pure (some message)

def processEntries (nested : String → C → Run C M H Answer) (data : C) : List Json → Run C M H (List Message)
  | [] => pure []
  | entry :: rest => do
      let message ← processEntry nested data entry
      Run.map (message.toList ++ ·) (processEntries nested data rest)

def processBatch (nested : String → C → Run C M H Answer) (entries : List Json) (data : C) :
    Run C M H Answer :=
  match entries with
  | [] => do
      let message ← reject (.arr []) data (.invalidRequest emptyBatch)
      pure (.single message)
  | _ :: _ => do
      Run.emit (.notice (.batch entries.length))
      Run.map Answer.ofMessages (processEntries nested data entries)

def processWith (nested : String → C → Run C M H Answer) (document : Json) (data : C) : Run C M H Answer :=
  match document with
  | .arr entries => processBatch nested entries data
  | .obj _ => do
      let message ← processOne nested document data
      pure (.ofMessage? message)
  | _ => do
      let message ← reject document data (.invalidRequest Request.notRequest)
      pure (.single message)

-- A text that cannot be read is rejected under the reader's own message.
def processTextWith (nested : String → C → Run C M H Answer) (text : String) (data : C) : Run C M H Answer :=
  match Json.parse text with
  | .ok document => processWith nested document data
  | .error error => do
      let message ← reject (.str text) data (.parseError error.message)
      pure (.single message)

-- How handlers call back. Dispatches stand inside one another to the depth that there is room for; a text further
-- inside is neither read nor answered.
def callback : Nat → String → C → Run C M H Answer
  | 0, _, _ => pure .silent
  | depth + 1, text, data => processTextWith (callback depth) text data

def process (depth : Nat) (document : Json) (data : C) : Run C M H Answer :=
  processWith (callback depth) document data

def processText (depth : Nat) (text : String) (data : C) : Run C M H Answer :=
  processTextWith (callback depth) text data

end Dispatcher

end JsonRpc
