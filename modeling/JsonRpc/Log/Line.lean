import JsonRpc.Log.Record
import JsonRpc.Text.Hex

set_option autoImplicit false

namespace JsonRpc.Log

def Level.padded (level : Level) : String :=
  .ofList (List.replicate (5 - level.name.length) ' ') ++ level.name

-- Characters by which a message could steer a terminal are written as escapes; other characters, the
-- remaining controls too, are kept.
def messageChar (c : Char) : List Char :=
  match c with
  | '\x07' => ['\\', 'x', '0', '7']
  | '\x08' => ['\\', 'x', '0', '8']
  | '\x0c' => ['\\', 'x', '0', 'c']
  | '\x1b' => ['\\', 'x', '1', 'b']
  | '\x7f' => ['\\', 'x', '7', 'f']
  | _ =>
      if 0x80 ≤ c.toNat ∧ c.toNat ≤ 0x9f then ['\\', 'u', '\x7b'] ++ Text.hex c.toNat ++ ['\x7d']
      else [c]

def messageText (message : String) : String := .ofList (message.toList.flatMap messageChar)

-- A field called `message` is a second message and stands without its name.
def Field.written (field : Field) : String :=
  if field.name = "message" then " " ++ messageText field.text else " " ++ field.name ++ "=" ++ field.text

def spansWritten (spans : List Span) : String :=
  if spans.isEmpty then "" else String.join (spans.map fun span => span.label ++ ":") ++ " "

def Record.line (record : Record) (spans : List Span) : String :=
  record.level.padded ++ " " ++ spansWritten spans ++ messageText record.message ++
    String.join (record.fields.map Field.written) ++ "\n"

end JsonRpc.Log
