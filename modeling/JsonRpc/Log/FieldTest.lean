import JsonRpc.Log.Threshold
import JsonRpc.Pattern.Form

set_option autoImplicit false

namespace JsonRpc.Log

-- The fields of spans are numbers. What is written otherwise never holds of one.
inductive FieldValue where
  | number (value : Nat)
  | other (text : String)
deriving DecidableEq

structure FieldTest where
  name : String
  value : Option FieldValue
deriving DecidableEq

def isDecimal (text : List Char) : Bool :=
  let whole := text.takeWhile Char.isDigit
  let rest := text.drop whole.length
  let point := rest.head? == some '.'
  let fraction := if point then (rest.drop 1).takeWhile Char.isDigit else []
  let rest := rest.drop (fraction.length + if point then 1 else 0)
  let power := match rest with
    | c :: '+' :: power => if c.toLower = 'e' then power else ['e']
    | c :: '-' :: power => if c.toLower = 'e' then power else ['e']
    | c :: power => if c.toLower = 'e' then power else ['e']
    | [] => ['0']
  !(whole ++ fraction).isEmpty && !power.isEmpty && power.all Char.isDigit

def isNumeral (text : String) : Bool :=
  let size := match text.toList with
    | '+' :: size => size
    | '-' :: size => size
    | size => size
  isDecimal size || ["inf", "infinity", "nan"].contains (lowerAscii (.ofList size))

def FieldValue.ofText? (text : String) : Option FieldValue :=
  match unsigned? text with
  | some value => some (.number value)
  | none => if isNumeral text || Pattern.isWellFormed text then some (.other text) else none

-- Behind a second `=` nothing is read.
def FieldTest.ofText? (text : String) : Option FieldTest :=
  if text.isEmpty then none
  else
    match text.splitOn "=" with
    | name :: value :: _ => (FieldValue.ofText? value).map fun value => ⟨name, some value⟩
    | _ => some ⟨text, none⟩

end JsonRpc.Log
