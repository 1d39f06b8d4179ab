import JsonRpc.RequestId
import JsonRpc.RpcError

set_option autoImplicit false

namespace JsonRpc

-- A valid request. Parameters are always a list: left out they are the empty list, given by name
-- they are one object. Without an identifier the request is a notification; `null` is an
-- identifier. `extra` holds the members the protocol does not know.
structure Request where
  method : String
  params : List Json
  id : Option RequestId
  extra : Members

namespace Request

def reservedMembers : List String := ["jsonrpc", "method", "params", "id"]

def isReserved (name : String) : Bool := reservedMembers.contains name

def notRequest : String := "Not a JSON-RPC 2.0 request"

def badParams : String := "Parameters must be either an array or an object or omitted"

def emptyMethod : String := "Method cannot be empty"

def badId : String := "ID must be either a number, a string, or null"

structure Envelope where
  version : String
  method : String

def envelopeFields : List Field :=
  [.required "jsonrpc" Decoder.string, .required "method" Decoder.string]

def Envelope.decoder : Decoder Envelope :=
  (Decoder.record "struct Envelope" envelopeFields false).map fun (version, method, ()) => { version, method }

def normalParams? : Option Json → Option (List Json)
  | none => some []
  | some (.arr params) => some params
  | some (.obj named) => some [.obj named]
  | some _ => none

def readId (id : Option Json) : Except RpcError (Option RequestId) :=
  match id with
  | none => .ok none
  | some raw =>
      match RequestId.ofJson? raw with
      | some id => .ok (some id)
      | none => .error (.invalidRequest badId)

def extraMembers (members : Members) : Members := members.filter fun (name, _) => !isReserved name

/-- Reads and validates one request. The mandatory members are looked at first, then the version, the
parameters, the method's name and the identifier. -/
def ofJson (document : Json) : Except RpcError Request :=
  match document with
  | .obj members =>
      match Envelope.decoder.decode (.obj members) with
      | .error error => .error (.invalidRequest error.message)
      | .ok envelope =>
          if envelope.version ≠ Version.v2.text then .error (.invalidRequest notRequest)
          else
            match normalParams? (members.lookup "params") with
            | none => .error (.invalidParams badParams)
            | some params =>
                if envelope.method = "" then .error (.invalidRequest emptyMethod)
                else
                  (readId (members.lookup "id")).map fun id =>
                    { method := envelope.method, params, id, extra := extraMembers members }
  | _ => .error (.invalidRequest notRequest)

def decoder : Decoder Request := fun source => do
  let document ← source.whole
  (ofJson document).mapError fun error => .custom error.message

-- The identifier to answer under when the request as a whole may be invalid.
def tentativeId (document : Json) : RequestId := ((document.get? "id").bind RequestId.ofJson?).getD .null

def isNotification (request : Request) : Bool := request.id.isNone

end Request

end JsonRpc
