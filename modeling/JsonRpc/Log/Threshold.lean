import JsonRpc.Decimal.Scaled
import JsonRpc.Log.Record

set_option autoImplicit false

namespace JsonRpc.Log

inductive Threshold where
  | off
  | upTo (level : Level)
deriving DecidableEq

def lowerAscii (text : String) : String := text.map Char.toLower

-- A number below `2^64` in digits, which may have a plus sign and leading zeros.
def unsigned? (text : String) : Option Nat :=
  let digits := if text.toList.head? = some '+' then text.toList.drop 1 else text.toList
  if digits.isEmpty || !digits.all Char.isDigit then none
  else
    match Decimal.appendDigits 0 digits with
    | (number, 0) => some number
    | _ => none

namespace Threshold

def verbosity : Threshold → Nat
  | .off => 0
  | .upTo level => level.verbosity

def shows (threshold : Threshold) (level : Level) : Bool := level.verbosity ≤ threshold.verbosity

def ofDigit? : Nat → Option Threshold
  | 0 => some .off
  | 1 => some (.upTo .error)
  | 2 => some (.upTo .warn)
  | 3 => some (.upTo .info)
  | 4 => some (.upTo .debug)
  | 5 => some (.upTo .trace)
  | _ => none

-- A name in capitals or not, or a number from zero to five.
def ofText? (text : String) : Option Threshold :=
  match lowerAscii text with
  | "off" => some .off
  | "error" => some (.upTo .error)
  | "warn" => some (.upTo .warn)
  | "info" => some (.upTo .info)
  | "debug" => some (.upTo .debug)
  | "trace" => some (.upTo .trace)
  | _ => (unsigned? text).bind ofDigit?

end Threshold

end JsonRpc.Log
