set_option autoImplicit false

/- Decimals read by scaling: the leading digits as one 64-bit number, then one product with or quotient
by a power of ten. Both steps round, so the result can differ from the nearest binary64 in its last
places. -/

namespace JsonRpc.Decimal

def digitValue (c : Char) : Nat := c.toNat - 48

def appendDigits (number : Nat) : List Char → Nat × Nat
  | [] => (number, 0)
  | c :: rest =>
      let next := number * 10 + digitValue c
      if next < 2 ^ 64 then appendDigits next rest else (number, rest.length + 1)

-- The digits before and after the point as `number * 10 ^ exponent`. A whole part that is too long
-- does not keep digits after the point from being appended.
def significand (whole fraction : List Char) : Nat × Int :=
  let (number, wholeLeft) := appendDigits 0 whole
  let (number, fractionLeft) := appendDigits number fraction
  (number, (wholeLeft : Int) + fractionLeft - fraction.length)

def topPower : Nat := 308

def powerOfTen (power : Nat) : Float := .ofScientific 1 false power

-- The quotient by `10 ^ power`. A power that is no binary64 is divided by in several steps.
def shrink (value : Float) (power : Nat) : Float :=
  if power ≤ topPower then value / powerOfTen power
  else if value == 0.0 then value
  else shrink (value / powerOfTen topPower) (power - topPower)
termination_by power
decreasing_by simp only [topPower] at *; omega

def grow? (value : Float) (power : Nat) : Option Float :=
  if power ≤ topPower then
    let product := value * powerOfTen power
    if product.isFinite then some product else none
  else if value == 0.0 then some value
  else none

def scale? (number : Nat) (exponent : Int) : Option Float :=
  let value := number.toUInt64.toFloat
  if exponent < 0 then some (shrink value exponent.natAbs) else grow? value exponent.toNat

end JsonRpc.Decimal
