import JsonRpc.Decode.Decoder

set_option autoImplicit false

namespace JsonRpc

-- A string, a number or `null`. Numbers are kept as they were written, so that a caller finds its
-- own identifier in the answer.
inductive RequestId where
  | string (value : String)
  | number (value : Number)
  | null
deriving DecidableEq

namespace RequestId

def ofJson? : Json → Option RequestId
  | .str value => some (.string value)
  | .num value => some (.number value)
  | .null => some .null
  | _ => none

def toJson : RequestId → Json
  | .string value => .str value
  | .number value => .num value
  | .null => .null

def encode : RequestId → Json
  | .string value => .str value
  | .number (.int value fits) => .num (.int value fits)
  | .number (.float value _) => .ofFloat value
  | .null => .null

def decoder : Decoder RequestId := Decoder.choose "RequestId"
  [Decoder.string.map .string, Decoder.number.map .number, Decoder.unit.map fun _ => .null]

def ofInt64 (value : Int64) : RequestId := .number (.ofInt64 value)

def asString? : RequestId → Option String
  | .string value => some value
  | _ => none

def asInt64? : RequestId → Option Int64
  | .number value => value.toInt64?
  | _ => none

def isNull : RequestId → Bool
  | .null => true
  | _ => false

def display : RequestId → String
  | .string value => value
  | .number value => value.text
  | .null => "null"

def debug : RequestId → String
  | .string value => "String(" ++ Text.quote value ++ ")"
  | .number value => "Number(Number(" ++ value.text ++ "))"
  | .null => "Null"

def same : RequestId → RequestId → Bool
  | .string a, .string b => a == b
  | .number a, .number b => a.same b
  | .null, .null => true
  | _, _ => false

def distinct : List RequestId → List RequestId
  | [] => []
  | id :: rest => id :: (distinct rest).filter fun other => !id.same other

theorem of_json_to_json (id : RequestId) : ofJson? id.toJson = some id := by
  cases id <;> rfl

end RequestId

inductive Version where
  | v2
deriving DecidableEq

namespace Version

def text : Version → String
  | .v2 => "2.0"

def ofText (text : String) : Except DecodeError Version :=
  if text = "2.0" then .ok .v2 else .error (.invalidVersion text)

def decoder : Decoder Version := fun source => do
  let text ← Decoder.string source
  ofText text

end Version

end JsonRpc
