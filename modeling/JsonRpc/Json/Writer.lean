import JsonRpc.Decimal.Layout
import JsonRpc.Json.Basic

set_option autoImplicit false

namespace JsonRpc

def Number.text : Number → String
  | .int value _ => toString value
  | .float value _ => Decimal.jsonLayout.writeFloat value

namespace Json

def hexDigit (n : Nat) : Char := Nat.digitChar (n % 16)

-- Quotes, backslashes and the controls below U+0020 are escaped, all else stands as it is.
def escapeChar (c : Char) : List Char :=
  match c with
  | '"' => ['\\', '"']
  | '\\' => ['\\', '\\']
  | '\x08' => ['\\', 'b']
  | '\t' => ['\\', 't']
  | '\n' => ['\\', 'n']
  | '\x0c' => ['\\', 'f']
  | '\r' => ['\\', 'r']
  | _ => if c.toNat < 0x20 then ['\\', 'u', '0', '0', hexDigit (c.toNat / 16), hexDigit c.toNat] else [c]

def stringText (text : String) : String := .ofList ('"' :: text.toList.flatMap escapeChar ++ ['"'])

mutual
def render : Json → String
  | .null => "null"
  | .bool true => "true"
  | .bool false => "false"
  | .num value => value.text
  | .str value => stringText value
  | .arr items => "[" ++ ",".intercalate (renderItems items) ++ "]"
  | .obj members => "\x7b" ++ ",".intercalate (renderMembers members) ++ "\x7d"
def renderItems : List Json → List String
  | [] => []
  | item :: rest => item.render :: renderItems rest
def renderMembers : List (String × Json) → List String
  | [] => []
  | (key, value) :: rest => (stringText key ++ ":" ++ value.render) :: renderMembers rest
end

def block (opening closing : String) (depth : Nat) (parts : List String) : String :=
  let margin := "\n" ++ .ofList (List.replicate (2 * depth) ' ')
  if parts.isEmpty then opening ++ closing
  else opening ++ margin ++ "  " ++ (("," ++ margin ++ "  ").intercalate parts) ++ margin ++ closing

mutual
def renderLines (depth : Nat) : Json → String
  | .arr items => block "[" "]" depth (linesOfItems (depth + 1) items)
  | .obj members => block "\x7b" "\x7d" depth (linesOfMembers (depth + 1) members)
  | .null => "null"
  | .bool value => (Json.bool value).render
  | .num value => value.text
  | .str value => stringText value
def linesOfItems (depth : Nat) : List Json → List String
  | [] => []
  | item :: rest => renderLines depth item :: linesOfItems depth rest
def linesOfMembers (depth : Nat) : List (String × Json) → List String
  | [] => []
  | (key, value) :: rest => (stringText key ++ ": " ++ renderLines depth value) :: linesOfMembers depth rest
end

def renderPretty (document : Json) : String := renderLines 0 document

end Json

end JsonRpc
