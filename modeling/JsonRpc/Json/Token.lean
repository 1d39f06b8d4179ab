import JsonRpc.Decimal.Scaled
import JsonRpc.Json.Basic
import JsonRpc.Json.Fault
import JsonRpc.Text.Hex

set_option autoImplicit false

/- The tokens of a JSON text. A text is cut into tokens up to its end or up to the first token that
cannot be completed; a string or a number that is complete but has no value keeps its fault, since
only a reader that wants the value has to report it. -/

namespace JsonRpc.Json

inductive Token.Kind where
  | openList
  | closeList
  | openObject
  | closeObject
  | comma
  | colon
  | null
  | bool (value : Bool)
  | number (value : Except Fault Number)
  | string (value : Except Fault String)
  | broken (quoted : Bool) (fault : Fault)
  | stray

structure Token where
  kind : Token.Kind
  start : Nat

namespace Token

structure Scan where
  kind : Kind
  taken : Nat

inductive StringState where
  | plain
  | escape
  -- Inside the four bytes after an escaped `u`; `high` is the first half of a surrogate pair.
  | hex (bytes value : Nat) (valid : Bool) (high : Option Nat)
  | afterHigh (high : Nat)
  | afterHighEscape (high : Nat)

def shortEscape? : Char → Option Char
  | '"' => some '"'
  | '\\' => some '\\'
  | '/' => some '/'
  | 'b' => some '\x08'
  | 'f' => some '\x0c'
  | 'n' => some '\n'
  | 'r' => some '\r'
  | 't' => some '\t'
  | _ => none

def isLow (unit : Nat) : Bool := 0xdc00 ≤ unit && unit ≤ 0xdfff

def isHigh (unit : Nat) : Bool := 0xd800 ≤ unit && unit ≤ 0xdbff

def joinPair (high low : Nat) : Char := .ofNat (0x10000 + (high - 0xd800) * 0x400 + (low - 0xdc00))

def escapedUnit (high : Option Nat) (unit : Nat) (done : List Char) :
    Except Cause (StringState × List Char) :=
  match high with
  | some first => if isLow unit then .ok (.plain, joinPair first unit :: done) else .error .loneSurrogate
  | none =>
      if isLow unit then .error .loneSurrogate
      else if isHigh unit then .ok (.afterHigh unit, done)
      else .ok (.plain, .ofNat unit :: done)

-- Reads a string after its opening quote: its characters in reverse and how many characters were
-- taken, or the cause of the failure and the bytes read by then. A reader that does not pair
-- surrogates checks escapes only for their form.
def scanString (paired : Bool) :
    StringState → Nat → Nat → List Char → List Char → Except (Cause × Nat) (List Char × Nat)
  | _, index, _, _, [] => .error (.endInString, index)
  | .plain, index, taken, done, c :: rest =>
      if c = '"' then .ok (done, taken + 1)
      else if c = '\\' then scanString paired .escape (index + 1) (taken + 1) done rest
      else if c.toNat < 0x20 then .error (.controlCharacter, index + 1)
      else scanString paired .plain (index + c.utf8Size) (taken + 1) (c :: done) rest
  | .escape, index, taken, done, c :: rest =>
      if c = 'u' then scanString paired (.hex 0 0 true none) (index + 1) (taken + 1) done rest
      else
        match shortEscape? c with
        | some meant => scanString paired .plain (index + 1) (taken + 1) (meant :: done) rest
        | none => .error (.invalidEscape, index + 1)
  | .hex bytes value valid high, index, taken, done, c :: rest =>
      let digit := Text.hexValue? c
      let valid := valid && digit.isSome
      let value := value * 16 + digit.getD 0
      if bytes + c.utf8Size < 4 then
        scanString paired (.hex (bytes + c.utf8Size) value valid high) (index + c.utf8Size) (taken + 1) done rest
      else if !valid then .error (.invalidEscape, index - bytes + 4)
      else if !paired then scanString paired .plain (index + 1) (taken + 1) done rest
      else
        match escapedUnit high value done with
        | .ok (state, done) => scanString paired state (index + 1) (taken + 1) done rest
        | .error cause => .error (cause, index + 1)
  | .afterHigh high, index, taken, done, c :: rest =>
      if c = '\\' then scanString paired (.afterHighEscape high) (index + 1) (taken + 1) done rest
      else .error (.unpairedSurrogate, index + 1)
  | .afterHighEscape high, index, taken, done, c :: rest =>
      if c = 'u' then scanString paired (.hex 0 0 true (some high)) (index + 1) (taken + 1) done rest
      else .error (.unpairedSurrogate, index + 1)

def stringToken (index : Nat) (rest : List Char) : Scan :=
  match scanString true .plain index 0 [] rest with
  | .ok (done, taken) => ⟨.string (.ok (.ofList done.reverse)), taken⟩
  | .error (cause, stop) =>
      match scanString false .plain index 0 [] rest with
      | .ok (_, taken) => ⟨.string (.error ⟨cause, stop, none⟩), taken⟩
      | .error (skipped, _) => ⟨.broken true ⟨cause, stop, some skipped⟩, 0⟩

def digitsValue (digits : List Char) : Nat := digits.foldl (fun n c => n * 10 + Decimal.digitValue c) 0

def exponentValue (value taken : Nat) : List Char → Except Nat Nat
  | [] => .ok value
  | c :: rest =>
      let next := value * 10 + Decimal.digitValue c
      if 2 ^ 31 ≤ next then .error (taken + 1) else exponentValue next (taken + 1) rest

-- The parts of a number's text. `exponentStart` bytes stand before the exponent's digits and `stop`
-- bytes before whatever follows the number.
structure NumberText where
  negative : Bool
  whole : List Char
  fraction : List Char
  exponent : Option (Bool × List Char)
  exponentStart : Nat
  stop : Nat

def NumberText.floatValue (n : NumberText) : Except Fault Number :=
  let (number, shift) := Decimal.significand n.whole n.fraction
  let signed (magnitude : Option Float) : Except Fault Number :=
    let value := magnitude.map fun size => if n.negative then -size else size
    match value.bind Number.ofFloat? with
    | some number => .ok number
    | none => .error ⟨.numberOutOfRange, n.stop, none⟩
  match n.exponent with
  | none => signed (Decimal.scale? number shift)
  | some (down, power) =>
      match exponentValue 0 0 power with
      | .ok exponent =>
          signed (Decimal.scale? number (if down then shift - exponent else shift + exponent))
      | .error taken =>
          if number = 0 ∨ down then signed (some 0.0)
          else .error ⟨.numberOutOfRange, n.exponentStart + taken, none⟩

-- An integer where the text has neither point nor exponent and the value fits; minus zero is a
-- float.
def NumberText.value (n : NumberText) : Except Fault Number :=
  let digits := digitsValue n.whole
  if !n.fraction.isEmpty || n.exponent.isSome || (n.negative && digits == 0) then n.floatValue
  else
    match Number.ofInt? (if n.negative then -digits else digits) with
    | some number => .ok number
    | none => n.floatValue

def missingDigit (index : Nat) : List Char → Fault
  | [] => ⟨.endInValue, index, some .invalidNumber⟩
  | _ :: _ => .plain .invalidNumber (index + 1)

def scanExponent (n : NumberText) (text : List Char) : Except Fault NumberText :=
  match text with
  | c :: rest =>
      if c = 'e' ∨ c = 'E' then
        let signLength := match rest with
          | '+' :: _ => 1
          | '-' :: _ => 1
          | _ => 0
        let power := (rest.drop signLength).takeWhile Char.isDigit
        let index := n.stop + 1 + signLength
        if power.isEmpty then .error (missingDigit index (rest.drop signLength))
        else .ok { n with
          exponent := some (rest.head? == some '-', power), exponentStart := index, stop := index + power.length }
      else .ok n
  | [] => .ok n

def scanFraction (n : NumberText) (text : List Char) : Except Fault NumberText :=
  match text with
  | '.' :: rest =>
      let fraction := rest.takeWhile Char.isDigit
      if fraction.isEmpty then .error (missingDigit (n.stop + 1) rest)
      else scanExponent { n with fraction, stop := n.stop + 1 + fraction.length } (rest.drop fraction.length)
  | _ => scanExponent n text

def scanNumber (index : Nat) (text : List Char) : Except Fault NumberText :=
  let negative := text.head? == some '-'
  let body := if negative then text.drop 1 else text
  let start := if negative then index + 1 else index
  let whole := body.takeWhile Char.isDigit
  if whole.isEmpty then .error (missingDigit start body)
  else if whole.head? == some '0' && 1 < whole.length then .error (.plain .invalidNumber (start + 2))
  else scanFraction ⟨negative, whole, [], none, 0, start + whole.length⟩ (body.drop whole.length)

def numberToken (index : Nat) (text : List Char) : Scan :=
  match scanNumber index text with
  | .ok n => ⟨.number n.value, n.stop - index - 1⟩
  | .error fault => ⟨.broken false fault, 0⟩

def wordFault? : List Char → Nat → List Char → Option Fault
  | [], _, _ => none
  | _ :: _, index, [] => some (.plain .endInValue index)
  | expected :: more, index, c :: rest =>
      if c = expected then wordFault? more (index + 1) rest else some (.plain .expectedWord (index + 1))

def wordToken (kind : Kind) (word : List Char) (index : Nat) (rest : List Char) : Scan :=
  match wordFault? word (index + 1) rest with
  | none => ⟨kind, word.length⟩
  | some fault => ⟨.broken false fault, 0⟩

def scan (index : Nat) (c : Char) (rest : List Char) : Scan :=
  match c with
  | '[' => ⟨.openList, 0⟩
  | ']' => ⟨.closeList, 0⟩
  | '\x7b' => ⟨.openObject, 0⟩
  | '\x7d' => ⟨.closeObject, 0⟩
  | ',' => ⟨.comma, 0⟩
  | ':' => ⟨.colon, 0⟩
  | '"' => stringToken (index + 1) rest
  | 'n' => wordToken .null ['u', 'l', 'l'] index rest
  | 't' => wordToken (.bool true) ['r', 'u', 'e'] index rest
  | 'f' => wordToken (.bool false) ['a', 'l', 's', 'e'] index rest
  | _ => if c = '-' ∨ c.isDigit then numberToken index (c :: rest) else ⟨.stray, 0⟩

def isSpace (c : Char) : Bool := c == ' ' || c == '\t' || c == '\n' || c == '\r'

def Kind.isBroken : Kind → Bool
  | .broken _ _ => true
  | _ => false

def listFrom : Nat → Nat → List Char → List Token
  | _, _, [] => []
  | pending + 1, index, c :: rest => listFrom pending (index + c.utf8Size) rest
  | 0, index, c :: rest =>
      if isSpace c then listFrom 0 (index + 1) rest
      else
        let found := scan index c rest
        if found.kind.isBroken then [⟨found.kind, index⟩]
        else ⟨found.kind, index⟩ :: listFrom found.taken (index + c.utf8Size) rest

def list (text : List Char) : List Token := listFrom 0 0 text

end Token

end JsonRpc.Json
