set_option autoImplicit false

namespace JsonRpc.Decimal

structure Scientific where
  digits : Nat
  exponent : Int
deriving DecidableEq

-- The number `mantissa * 2 ^ exponent`. `narrow` holds where the next smaller number lies only half
-- as far away as the next larger one.
structure Binary where
  mantissa : Nat
  exponent : Int
  narrow : Bool
deriving DecidableEq

def Binary.ofFloat (x : Float) : Binary :=
  let bits := x.toBits.toNat
  let fraction : Nat := bits % 0x10000000000000
  let power : Nat := bits / 0x10000000000000 % 0x800
  if power = 0 then ⟨fraction, -1074, false⟩
  else ⟨fraction + 0x10000000000000, (power : Int) - 1075, fraction = 0 ∧ 1 < power⟩

def scaled (n base : Nat) (e : Int) : Nat × Nat :=
  if 0 ≤ e then (n * base.pow e.toNat, 1) else (n, base.pow e.natAbs)

namespace Binary

-- Whether `point * 10 ^ grid` rounds to the number. The ends of the interval count where the
-- mantissa is even.
def contains (b : Binary) (grid : Int) (point : Nat) : Bool :=
  let low := scaled (4 * b.mantissa - (if b.narrow then 1 else 2)) 2 (b.exponent - 2)
  let high := scaled (4 * b.mantissa + 2) 2 (b.exponent - 2)
  let here := scaled point 10 grid
  let fromLow := here.1 * low.2
  let atLow := low.1 * here.2
  let toHigh := high.1 * here.2
  let atHere := here.1 * high.2
  if b.mantissa % 2 = 0 then atLow ≤ fromLow && atHere ≤ toHigh else atLow < fromLow && atHere < toHigh

-- The point of the grid `10 ^ grid` that rounds to the number: of two the nearer, of two equally
-- near the even one.
def onGrid? (b : Binary) (grid : Int) : Option Scientific :=
  let value := scaled b.mantissa 2 b.exponent
  let unit := scaled 1 10 grid
  let below := value.1 * unit.2 / (value.2 * unit.1)
  let rest := 2 * (value.1 * unit.2 % (value.2 * unit.1))
  let preferBelow := rest < value.2 * unit.1 || (rest == value.2 * unit.1 && below % 2 == 0)
  match b.contains grid below, b.contains grid (below + 1) with
  | true, true => some ⟨if preferBelow then below else below + 1, grid⟩
  | true, false => some ⟨below, grid⟩
  | false, true => some ⟨below + 1, grid⟩
  | false, false => none

def topGrid (b : Binary) : Int :=
  let bits := b.exponent + 53
  (if 0 ≤ bits then bits * 302 / 1000 else bits * 301 / 1000) + 1

def searchGrid (b : Binary) : Nat → Int → Scientific
  | 0, grid => ⟨0, grid⟩
  | steps + 1, grid => (b.onGrid? grid).getD (searchGrid b steps (grid - 1))

def shortest (b : Binary) : Scientific :=
  if b.mantissa = 0 then ⟨0, 0⟩ else b.searchGrid 40 b.topGrid

end Binary

end JsonRpc.Decimal
