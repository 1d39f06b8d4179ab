set_option autoImplicit false

namespace JsonRpc.Json

-- The reader has no cause of its own beyond those named. A value that is written in a way of its own may be
-- refused with any text.
inductive Cause where
  | endInValue
  | endInList
  | endInObject
  | endInString
  | expectedValue
  | expectedWord
  | expectedListEnd
  | expectedObjectEnd
  | expectedColon
  | keyNotString
  | trailingComma
  | trailingCharacters
  | tooDeep
  | invalidNumber
  | numberOutOfRange
  | controlCharacter
  | invalidEscape
  | loneSurrogate
  | unpairedSurrogate
  | custom (text : String)
deriving DecidableEq

def Cause.message : Cause → String
  | .endInValue => "EOF while parsing a value"
  | .endInList => "EOF while parsing a list"
  | .endInObject => "EOF while parsing an object"
  | .endInString => "EOF while parsing a string"
  | .expectedValue => "expected value"
  | .expectedWord => "expected ident"
  | .expectedListEnd => "expected `,` or `]`"
  | .expectedObjectEnd => "expected `,` or `\x7d`"
  | .expectedColon => "expected `:`"
  | .keyNotString => "key must be a string"
  | .trailingComma => "trailing comma"
  | .trailingCharacters => "trailing characters"
  | .tooDeep => "recursion limit exceeded"
  | .invalidNumber => "invalid number"
  | .numberOutOfRange => "number out of range"
  | .controlCharacter => "control character (\\u0000-\\u001F) found while parsing a string"
  | .invalidEscape => "invalid escape"
  | .loneSurrogate => "lone leading surrogate in hex escape"
  | .unpairedSurrogate => "unexpected end of hex escape"
  | .custom text => text

-- A fault and the number of bytes read when it is found. `skipped` is the cause reported by a
-- reader that only steps over this part of the text; where it is `none` such a reader sees no
-- fault.
structure Fault where
  cause : Cause
  index : Nat
  skipped : Option Cause
deriving DecidableEq

def Fault.plain (cause : Cause) (index : Nat) : Fault := ⟨cause, index, some cause⟩

structure Position where
  line : Nat
  column : Nat
deriving DecidableEq

-- The place after so many bytes. Lines count from one, columns count the bytes since the last line
-- break.
def Position.after (index : Nat) : List Char → Position
  | text => go text 0 ⟨1, 0⟩
where
  go : List Char → Nat → Position → Position
    | [], _, place => place
    | c :: rest, start, place =>
        if index ≤ start then place
        else if c = '\n' then go rest (start + 1) ⟨place.line + 1, 0⟩
        else go rest (start + c.utf8Size) ⟨place.line, place.column + min c.utf8Size (index - start)⟩

structure Error where
  cause : Cause
  position : Option Position
deriving DecidableEq

def Error.message (error : Error) : String :=
  match error.position with
  | none => error.cause.message
  | some place => s!"{error.cause.message} at line {place.line} column {place.column}"

end JsonRpc.Json
