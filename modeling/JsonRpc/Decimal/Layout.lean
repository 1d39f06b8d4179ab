import JsonRpc.Decimal.Shortest

set_option autoImplicit false

namespace JsonRpc.Decimal

structure Layout where
  -- Whether a number whose first digit stands for this power of ten is written out in places.
  inPlaces : Int → Bool
  wholeEnd : String

-- JSON numbers: places from `10 ^ -5` to `10 ^ 15`, always with a fractional digit.
def jsonLayout : Layout := ⟨fun power => -5 ≤ power && power ≤ 15, ".0"⟩

-- Numbers in running text: always in places, whole ones without a point.
def plainLayout : Layout := ⟨fun _ => true, ""⟩

def Scientific.digitText (d : Scientific) : List Char := Nat.toDigits 10 d.digits

def Scientific.power (d : Scientific) : Int := d.exponent + d.digitText.length - 1

namespace Layout

def writeInPlaces (layout : Layout) (d : Scientific) : String :=
  let digits := d.digitText
  if 0 ≤ d.exponent then .ofList (digits ++ List.replicate d.exponent.toNat '0') ++ layout.wholeEnd
  else
    let places := d.exponent.natAbs
    if places < digits.length then
      .ofList (digits.take (digits.length - places) ++ '.' :: digits.drop (digits.length - places))
    else .ofList ('0' :: '.' :: List.replicate (places - digits.length) '0' ++ digits)

def writeWithExponent (d : Scientific) : String :=
  let power := if d.power < 0 then toString d.power else "+" ++ toString d.power
  match d.digitText with
  | first :: rest@(_ :: _) => .ofList (first :: '.' :: rest) ++ "e" ++ power
  | digits => .ofList digits ++ "e" ++ power

def write (layout : Layout) (d : Scientific) : String :=
  if layout.inPlaces d.power then layout.writeInPlaces d else writeWithExponent d

def writeFloat (layout : Layout) (x : Float) : String :=
  (if x.toBits.toNat / 0x8000000000000000 = 1 then "-" else "") ++ layout.write (Binary.ofFloat x).shortest

end Layout

end JsonRpc.Decimal
