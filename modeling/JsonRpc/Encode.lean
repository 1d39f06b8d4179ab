import JsonRpc.Json.Basic
import JsonRpc.Json.Fault

set_option autoImplicit false

namespace JsonRpc.Encode

def integer (value : Int) : Except Json.Error Json :=
  match Number.ofInt? value with
  | some number => .ok (.num number)
  | none => .error ⟨.numberOutOfRange, none⟩

-- A key of a map. Only keys with a plain text can be names of members.
inductive Key where
  | text (value : String)
  | integer (value : Int)
  | bool (value : Bool)
  | char (value : Char)
  | composite

def Key.name : Key → Except Json.Error String
  | .text value => .ok value
  | .integer value => .ok (toString value)
  | .bool true => .ok "true"
  | .bool false => .ok "false"
  | .char value => .ok value.toString
  | .composite => .error ⟨.keyNotString, none⟩

def namedEntries : List (Key × Json) → Except Json.Error (List (String × Json))
  | [] => .ok []
  | (key, value) :: rest => do
      let name ← key.name
      let rest ← namedEntries rest
      pure ((name, value) :: rest)

def map (entries : List (Key × Json)) : Except Json.Error Json := (namedEntries entries).map Json.object

end JsonRpc.Encode
