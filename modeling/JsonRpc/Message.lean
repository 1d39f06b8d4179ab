import JsonRpc.RequestId
import JsonRpc.RpcError

set_option autoImplicit false

namespace JsonRpc

structure Response where
  result : Json
  id : RequestId

structure ErrorResponse where
  error : RpcError
  id : RequestId

inductive Message where
  | result (response : Response)
  | error (response : ErrorResponse)

def versionMember : String × Json := ("jsonrpc", .str Version.v2.text)

namespace Response

def members (response : Response) : List (String × Json) :=
  [versionMember, ("result", response.result), ("id", response.id.toJson)]

def fields : List Field :=
  [.required "jsonrpc" Version.decoder, .required "result" Decoder.any, .required "id" RequestId.decoder]

-- A response has no other members than its own three.
def decoder : Decoder Response :=
  (Decoder.record "struct JsonRpcResponse" fields true).map fun (_, result, id, ()) => { result, id }

end Response

namespace ErrorResponse

def members (response : ErrorResponse) : List (String × Json) :=
  [versionMember, ("error", response.error.toJson), ("id", response.id.toJson)]

def declaredMembers (response : ErrorResponse) : List (String × Json) :=
  [versionMember, ("error", .obj response.error.members), ("id", response.id.toJson)]

def toJson (response : ErrorResponse) : Json := Json.object response.members

def text (response : ErrorResponse) : String := (Json.obj response.declaredMembers).render

def display (response : ErrorResponse) : String :=
  "JSON-RPC Error " ++ toString response.error.code.toInt ++ ": " ++ response.error.message

def fields : List Field :=
  [.required "jsonrpc" Version.decoder, .required "error" RpcError.decoder, .required "id" RequestId.decoder]

def decoder : Decoder ErrorResponse :=
  (Decoder.record "struct JsonRpcError" fields false).map fun (_, error, id, ()) => { error, id }

end ErrorResponse

namespace Message

def success (id : RequestId) (result : Json) : Message := .result { result, id }

def failure (id : RequestId) (error : RpcError) : Message := .error { error, id }

def ofOutcome (id : RequestId) : Except RpcError Json → Message
  | .ok value => success id value
  | .error reason => failure id reason

def id : Message → RequestId
  | .result sent => sent.id
  | .error sent => sent.id

def isError : Message → Bool
  | .result _ => false
  | .error _ => true

def toJson : Message → Json
  | .result sent => Json.object sent.members
  | .error sent => sent.toJson

def text : Message → String
  | .result sent => (Json.obj sent.members).render
  | .error sent => sent.text

-- What has the form of a response is one; what has not may still be an error.
def decoder : Decoder Message := Decoder.choose "JsonRpcMessage"
  [Response.decoder.map .result, ErrorResponse.decoder.map .error]

end Message

inductive Answer where
  | single (message : Message)
  | batch (messages : List Message)
  | silent

namespace Answer

def ofMessage? : Option Message → Answer
  | some message => .single message
  | none => .silent

-- A batch of no messages is not answered at all.
def ofMessages (messages : List Message) : Answer :=
  if messages.isEmpty then .silent else .batch messages

def messages : Answer → List Message
  | .single message => [message]
  | .batch messages => messages
  | .silent => []

def toJson? : Answer → Option Json
  | .single message => some message.toJson
  | .batch messages => some (.arr (messages.map Message.toJson))
  | .silent => none

def text (answer : Answer) : String := (answer.toJson?.map Json.render).getD ""

def isError : Answer → Bool
  | .single message => message.isError
  | _ => false

def needsResponse : Answer → Bool
  | .silent => false
  | _ => true

end Answer

end JsonRpc
