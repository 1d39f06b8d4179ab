import JsonRpc.Message

set_option autoImplicit false

namespace JsonRpc

mutual
inductive HandlerError where
  | rpc (error : RpcError)
  | response (response : ErrorResponse)
  | text (message : String)
  | invocation (error : InvocationError)
inductive InvocationError where
  | params (error : RpcError)
  | handler (error : HandlerError)
  | result (error : Json.Error)
end

mutual
def HandlerError.display : HandlerError → String
  | .rpc error => error.message
  | .response sent => sent.display
  | .text message => message
  | .invocation error => error.display
def InvocationError.display : InvocationError → String
  | .params error => error.message
  | .handler error => error.display
  | .result error => "failed to serialize handler result: " ++ error.message
end

-- An error object passes unchanged if it is what the call failed with; an error object further down
-- counts as text only, like everything else.
def InvocationError.toRpcError : InvocationError → RpcError
  | .params error => error
  | .handler (.rpc error) => error
  | .handler error => .internalError error.display
  | .result error => .internalError error.message

end JsonRpc
