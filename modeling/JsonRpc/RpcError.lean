import JsonRpc.Decode.Record

set_option autoImplicit false

namespace JsonRpc

inductive ErrorCode where
  | parseError
  | invalidRequest
  | methodNotFound
  | invalidParams
  | internalError
deriving DecidableEq

namespace ErrorCode

def code : ErrorCode → Int64
  | .parseError => -32700
  | .invalidRequest => -32600
  | .methodNotFound => -32601
  | .invalidParams => -32602
  | .internalError => -32603

def message : ErrorCode → String
  | .parseError => "Parse error"
  | .invalidRequest => "Invalid Request"
  | .methodNotFound => "Method not found"
  | .invalidParams => "Invalid params"
  | .internalError => "Internal error"

def all : List ErrorCode := [.parseError, .invalidRequest, .methodNotFound, .invalidParams, .internalError]

def ofCode? (code : Int64) : Option ErrorCode := all.find? fun kind => kind.code = code

def display (kind : ErrorCode) : String := toString kind.code.toInt ++ ": " ++ kind.message

theorem of_code_code (kind : ErrorCode) : ofCode? kind.code = some kind := by
  cases kind <;> decide

end ErrorCode

structure RpcError where
  code : Int64
  message : String
  data : Option Json := none

namespace RpcError

def ofKind (kind : ErrorCode) (message : Option String) : RpcError :=
  { code := kind.code, message := message.getD kind.message }

def parseError (message : String) : RpcError := { code := ErrorCode.parseError.code, message }

def invalidRequest (message : String) : RpcError := { code := ErrorCode.invalidRequest.code, message }

def methodNotFound : RpcError := { code := ErrorCode.methodNotFound.code, message := ErrorCode.methodNotFound.message }

def invalidParams (message : String) : RpcError := { code := ErrorCode.invalidParams.code, message }

def internalError (message : String) : RpcError := { code := ErrorCode.internalError.code, message }

def withData (error : RpcError) (data : Json) : RpcError := { error with data := some data }

def kind? (error : RpcError) : Option ErrorCode := ErrorCode.ofCode? error.code

-- The data worth sending: `null` counts as none.
def shownData (error : RpcError) : Option Json := error.data.filter fun data => !data.isNull

def members (error : RpcError) : List (String × Json) :=
  [("code", .ofInt64 error.code), ("message", .str error.message)] ++
    (match error.shownData with
    | some data => [("data", data)]
    | none => [])

def toJson (error : RpcError) : Json := Json.object error.members

def text (error : RpcError) : String := (Json.obj error.members).render

def fields : List Field :=
  [.required "code" Decoder.int64, .required "message" Decoder.string,
    .defaulted "data" Decoder.any.optional none]

def decoder : Decoder RpcError :=
  (Decoder.record "struct RpcError" fields false).map fun (code, message, data, ()) => { code, message, data }

end RpcError

end JsonRpc
