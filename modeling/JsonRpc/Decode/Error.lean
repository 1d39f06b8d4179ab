import JsonRpc.Json.Fault
import JsonRpc.Json.Writer
import JsonRpc.Text.Quoted

set_option autoImplicit false

namespace JsonRpc

inductive Scalar where
  | null
  | bool (value : Bool)
  | num (value : Number)
  | str (value : String)

inductive Found where
  | scalar (value : Scalar)
  | list
  | object
  | bareVariant

-- A type that is decoded in a way of its own tells its refusals as `custom`.
inductive DecodeError where
  | malformed (cause : Json.Cause)
  | invalidType (found : Found) (expected : String)
  | invalidValue (found : Found) (expected : String)
  | invalidLength (length : Nat) (expected : String)
  | missingField (name : String)
  | unknownField (name : String) (known : List String)
  | duplicateField (name : String)
  | unknownVariant (name : String) (known : List String)
  | noAlternative (type : String)
  | invalidVersion (text : String)
  | custom (text : String)

def Found.text : Found → String
  | .scalar .null => "null"
  | .scalar (.bool true) => "boolean `true`"
  | .scalar (.bool false) => "boolean `false`"
  | .scalar (.num value@(.int _ _)) => "integer `" ++ value.text ++ "`"
  | .scalar (.num value@(.float _ _)) => "floating point `" ++ value.text ++ "`"
  | .scalar (.str value) => "string " ++ Text.quote value
  | .list => "sequence"
  | .object => "map"
  | .bareVariant => "unit variant"

namespace DecodeError

def oneOf : List String → String
  | [name] => "`" ++ name ++ "`"
  | [first, second] => "`" ++ first ++ "` or `" ++ second ++ "`"
  | names => "one of " ++ ", ".intercalate (names.map fun name => "`" ++ name ++ "`")

def message : DecodeError → String
  | malformed cause => cause.message
  | invalidType found expected => "invalid type: " ++ found.text ++ ", expected " ++ expected
  | invalidValue found expected => "invalid value: " ++ found.text ++ ", expected " ++ expected
  | invalidLength length expected => "invalid length " ++ toString length ++ ", expected " ++ expected
  | missingField name => "missing field `" ++ name ++ "`"
  | unknownField name known => "unknown field `" ++ name ++ "`, expected " ++ oneOf known
  | duplicateField name => "duplicate field `" ++ name ++ "`"
  | unknownVariant name known => "unknown variant `" ++ name ++ "`, expected " ++ oneOf known
  | noAlternative type => "data did not match any variant of untagged enum " ++ type
  | invalidVersion text => "Invalid JSON-RPC version: " ++ text
  | custom text => text

end DecodeError

end JsonRpc
