import JsonRpc.Log.FieldTest
import JsonRpc.Text.Blank

set_option autoImplicit false

namespace JsonRpc.Log

-- Where a part is left out the directive is about every target, span or record.
structure Directive where
  target : Option String
  span : Option String
  fields : List FieldTest
  threshold : Threshold
deriving DecidableEq

-- Why a text is no directive. Where it would have to be cut inside a character there is no telling
-- what it means.
inductive DirectiveFault where
  | malformed
  | insideCharacter
deriving DecidableEq

namespace Directive

inductive Reading where
  | word
  | span (start : Nat)
  | field (start : Nat)
  | afterField
  | afterSpan
  | level (start : Nat)

def isBoundary : Nat → List Char → Bool
  | 0, _ => true
  | _, [] => false
  | place, c :: rest => c.utf8Size ≤ place && isBoundary (place - c.utf8Size) rest

def charsBetween (start stop : Nat) : Nat → List Char → List Char
  | _, [] => []
  | index, c :: rest =>
      let later := charsBetween start stop (index + c.utf8Size) rest
      if start ≤ index ∧ index < stop then c :: later else later

def cut (text : String) (start stop : Nat) : Except DirectiveFault String :=
  if isBoundary start text.toList && isBoundary stop text.toList then
    .ok (.ofList (charsBetween start stop 0 text.toList))
  else .error .insideCharacter

def nonempty? (text : String) : Option String := if text.isEmpty then none else some text

def orMalformed {α : Type} : Option α → Except DirectiveFault α
  | some value => .ok value
  | none => .error .malformed

def all : Directive := ⟨none, none, [], .upTo .trace⟩

def isFirst (c : Char) : Bool := Text.isAlphanumeric c || c == '-' || c == ':' || c == '_'

def start (c : Char) : Except DirectiveFault Reading :=
  if c = '[' then .ok (.span 1) else if isFirst c then .ok .word else .error .malformed

def step (text : String) (index : Nat) (c : Char) (directive : Directive) :
    Reading → Except DirectiveFault (Directive × Reading)
  | .word =>
      if c = '=' ∨ c = '[' then do
        let target ← cut text 0 index
        let next := if c = '=' then Reading.level (index + 1) else .span (index + 1)
        pure ({ directive with target := some target }, next)
      else pure (directive, .word)
  | .span start =>
      if c = ']' then do
        let name ← cut text start index
        pure ({ directive with span := some name }, .afterSpan)
      else if c = '\x7b' then do
        let name ← cut text start index
        pure ({ directive with span := nonempty? name }, .field (index + 1))
      else pure (directive, .span start)
  | .field start =>
      if c = '\x7d' then do
        let field ← orMalformed (FieldTest.ofText? (← cut text start index))
        pure ({ directive with fields := directive.fields ++ [field] }, .afterField)
      else pure (directive, .field start)
  | .afterField => if c = ']' then pure (directive, .afterSpan) else .error .malformed
  | .afterSpan => if c = '=' then pure (directive, .level (index + 1)) else .error .malformed
  | .level start => pure (directive, .level start)

def steps (text : String) (index : Nat) (directive : Directive) (reading : Reading) :
    List Char → Except DirectiveFault (Directive × Reading)
  | [] => pure (directive, reading)
  | c :: rest => do
      let (directive, reading) ← step text index c directive reading
      steps text (index + c.utf8Size) directive reading rest

def ofWord (word : String) : Directive :=
  match Threshold.ofText? word with
  | some threshold => { all with threshold }
  | none => { all with target := some word }

def finish (text : String) (directive : Directive) : Reading → Except DirectiveFault Directive
  | .word => pure (ofWord text)
  | .level start => do
      match nonempty? (← cut text start text.utf8ByteSize) with
      | some level => do
          let threshold ← orMalformed (Threshold.ofText? level)
          pure { directive with threshold }
      | none => pure directive
  | .afterSpan => pure directive
  | _ => .error .malformed

-- Places are counted without the blank space around the text but looked up in the text as it is. So
-- blank space belongs to a single word, and before a level it is a mistake.
def ofText (text : String) : Except DirectiveFault Directive :=
  match (Text.trim text).toList with
  | [] => .error .malformed
  | first :: rest => do
      let reading ← start first
      let (directive, reading) ← steps text first.utf8Size all reading rest
      finish text directive reading

end Directive

end JsonRpc.Log
