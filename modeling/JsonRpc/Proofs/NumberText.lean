import JsonRpc.Json.Writer
import JsonRpc.Proofs.ShortestDecimal

set_option autoImplicit false

namespace JsonRpc

open Float.Model Float.Model.UnpackedFloat

namespace Decimal

-- Digits of which the first stands for a power of ten. From `10 ^ -5` to `10 ^ 15` all places are written out, one
-- after the point at least.
inductive Laid (digits : List Char) (power : Int) : String → Prop
  | whole (zeros : Nat) (length : digits.length + zeros = power + 1) (high : power ≤ 15) :
      Laid digits power (.ofList (digits ++ List.replicate zeros '0') ++ ".0")
  | split (before after : List Char) (parted : digits = before ++ after) (length : before.length = power + 1)
      (positive : 0 ≤ power) (high : power ≤ 15) (more : after ≠ []) :
      Laid digits power (.ofList before ++ "." ++ .ofList after)
  | fraction (zeros : Nat) (small : zeros + 1 = -power) (low : -5 ≤ power) :
      Laid digits power ("0." ++ .ofList (List.replicate zeros '0') ++ .ofList digits)
  | one (digit : Char) (single : digits = [digit]) (far : power < -5 ∨ 15 < power) :
      Laid digits power (.ofList [digit] ++ "e" ++ (if power < 0 then "-" else "+") ++ toString power.natAbs)
  | several (first : Char) (rest : List Char) (longer : digits = first :: rest) (more : rest ≠ [])
      (far : power < -5 ∨ 15 < power) :
      Laid digits power
        (.ofList [first] ++ "." ++ .ofList rest ++ "e" ++ (if power < 0 then "-" else "+") ++ toString power.natAbs)

theorem int_text (value : Int) : toString value = (if value < 0 then "-" else "") ++ toString value.natAbs := by
  cases value with
  | ofNat value => rfl
  | negSucc value => simp [Int.negSucc_lt_zero, toString, Int.repr]

theorem signed_power (power : Int) :
    (if power < 0 then toString power else "+" ++ toString power) =
      (if power < 0 then "-" else "+") ++ toString power.natAbs := by
  rw [int_text]
  split <;> rfl

theorem laid_only (d : Scientific) (text : String) (laid : Laid d.digitText d.power text) :
    text = jsonLayout.write d := by
  have present : 0 < d.digitText.length := Nat.length_toDigits_pos
  have power : d.power = d.exponent + d.digitText.length - 1 := rfl
  have near (low : -5 ≤ d.power) (high : d.power ≤ 15) : jsonLayout.write d = jsonLayout.writeInPlaces d := by
    simp [Layout.write, jsonLayout, low, high]
  have beyond (far : d.power < -5 ∨ 15 < d.power) : jsonLayout.write d = Layout.writeWithExponent d := by
    have outside : ¬ (-5 ≤ d.power ∧ d.power ≤ 15) := by omega
    simp [Layout.write, jsonLayout, outside]
  cases laid with
  | whole zeros length high =>
    obtain rfl : zeros = d.exponent.toNat := by omega
    rw [near (by omega) high, Layout.writeInPlaces, if_pos (by omega)]
    rfl
  | split before after parted length positive high more =>
    have size : d.digitText.length = before.length + after.length := by rw [parted, List.length_append]
    have least := List.length_pos_iff.mpr more
    have taken : d.digitText.length - d.exponent.natAbs = before.length := by omega
    rw [near (by omega) high, Layout.writeInPlaces, if_neg (by omega), if_pos (by omega), taken, parted]
    exact String.toList_inj.mp (by simp)
  | fraction zeros small low =>
    have added : d.exponent.natAbs - d.digitText.length = zeros := by omega
    rw [near low (by omega), Layout.writeInPlaces, if_neg (by omega), if_neg (by omega), added]
    exact String.toList_inj.mp (by simp)
  | one digit single far =>
    rw [beyond far, Layout.writeWithExponent, signed_power, single]
    exact String.toList_inj.mp (by simp)
  | several first rest longer more far =>
    obtain ⟨second, others, rfl⟩ := List.exists_cons_of_ne_nil more
    rw [beyond far, Layout.writeWithExponent, signed_power, longer]
    exact String.toList_inj.mp (by simp)

theorem laid_exists (digits : List Char) (present : 0 < digits.length) (power : Int) :
    ∃ text, Laid digits power text := by
  obtain ⟨first, rest, longer⟩ := List.exists_cons_of_length_pos present
  by_cases far : power < -5 ∨ 15 < power
  · by_cases more : rest = []
    · exact ⟨_, .one first (more ▸ longer) far⟩
    · exact ⟨_, .several first rest longer more far⟩
  · rcases Int.lt_or_le power 0 with small | positive
    · exact ⟨_, .fraction (-power - 1).toNat (by omega) (by omega)⟩
    · rcases Int.lt_or_le (power + 1) digits.length with within | whole
      · have length : ((digits.take (power + 1).toNat).length : Int) = power + 1 := by
          rw [List.length_take]
          omega
        have more : digits.drop (power + 1).toNat ≠ [] := by
          rw [← List.length_pos_iff, List.length_drop]
          omega
        exact ⟨_, .split _ _ (List.take_append_drop _ digits).symm length positive (by omega) more⟩
      · exact ⟨_, .whole (power + 1 - digits.length).toNat (by omega) (by omega)⟩

theorem laid_iff (d : Scientific) (text : String) : Laid d.digitText d.power text ↔ text = jsonLayout.write d := by
  refine ⟨laid_only d text, fun same => ?_⟩
  obtain ⟨other, laid⟩ := laid_exists d.digitText Nat.length_toDigits_pos d.power
  rw [same, ← laid_only d other laid]
  exact laid

section

variable (x : Float)

def signField : BitVec 1 := @unpackSign Format.binary64 x.toModel.toBits.toBitVec

def powerField : BitVec 11 := @unpackExponent Format.binary64 x.toModel.toBits.toBitVec

def fractionField : BitVec 52 := @unpackMantissa Format.binary64 x.toModel.toBits.toBitVec

theorem float_fields :
    let bits := x.toBits.toNat
    (signField x).toNat = bits / 0x8000000000000000 ∧ (powerField x).toNat = bits / 0x10000000000000 % 0x800 ∧
      (fractionField x).toNat = bits % 0x10000000000000 := by
  intro bits
  have bound : x.toBits.toNat < 0x10000000000000000 := x.toBits.toNat_lt
  refine ⟨?_, congrArg (· % 0x800) (Nat.shiftRight_eq_div_pow bits 52),
    congrArg (· % 0x10000000000000) (Nat.shiftRight_zero (n := bits))⟩
  have shifted : bits >>> 63 % 2 = bits / 0x8000000000000000 := by
    rw [Nat.shiftRight_eq_div_pow]
    omega
  exact shifted

-- Where the mantissa is the least and the exponent is not, the next smaller float is only half as far away as the next
-- larger one.
def binaryOf (mantissa : Nat) (exponent : Int) : Binary := ⟨mantissa, exponent, mantissa = 2 ^ 52 ∧ -1074 < exponent⟩

def signText : Sign → String
  | .positive => ""
  | .negative => "-"

inductive FloatText : UnpackedFloat → String → Prop
  | zero (sign : Sign) : FloatText (.zero sign) (signText sign ++ "0.0")
  | finite (sign : Sign) (mantissa : Nat) (exponent : Int) (positive : 0 < mantissa) (d : Scientific) (text : String)
      (shortest : (binaryOf mantissa exponent).Shortest d)
      (laid : Laid (Nat.toDigits 10 d.digits) (d.exponent + (Nat.toDigits 10 d.digits).length - 1) text) :
      FloatText (.finite sign mantissa exponent positive) (signText sign ++ text)

theorem sign_text :
    signText (.ofBitVec (signField x)) = if x.toBits.toNat / 0x8000000000000000 = 1 then "-" else "" := by
  have field := (float_fields x).1
  have bound : x.toBits.toNat < 0x10000000000000000 := x.toBits.toNat_lt
  unfold Sign.ofBitVec
  by_cases plus : signField x = 0#1
  · have none : x.toBits.toNat / 0x8000000000000000 = 0 := field.symm.trans (congrArg BitVec.toNat plus)
    rw [if_pos plus, none]
    rfl
  · have some : x.toBits.toNat / 0x8000000000000000 ≠ 0 := fun none => plus (BitVec.eq_of_toNat_eq (field.trans none))
    rw [if_neg plus, if_pos (by omega)]
    rfl

inductive Unpacked : UnpackedFloat → Prop
  | zero (none : (Binary.ofFloat x).mantissa = 0) : Unpacked (.zero (.ofBitVec (signField x)))
  | finite (mantissa : Nat) (exponent : Int) (positive : 0 < mantissa) (small : mantissa < 2 ^ 53)
      (low : -1074 ≤ exponent) (high : exponent ≤ 971) (same : Binary.ofFloat x = binaryOf mantissa exponent) :
      Unpacked (.finite (.ofBitVec (signField x)) mantissa exponent positive)

theorem raised_fraction : (1#1 ++ fractionField x).toNat = (fractionField x).toNat + 0x10000000000000 := by
  rw [BitVec.toNat_append, ← Nat.shiftLeft_add_eq_or_of_lt (fractionField x).isLt, Nat.add_comm]
  rfl

theorem fraction_positive (some : fractionField x ≠ 0#52) : 0 < (fractionField x).toNat :=
  Nat.pos_of_ne_zero fun none => some (BitVec.eq_of_toNat_eq none)

theorem unpack_fields :
    x.toModel.unpack =
      if powerField x = -1#11 then
        if fractionField x = 0#52 then .infinity (.ofBitVec (signField x)) else .notANumber
      else if powerField x = 0#11 then
        if none : fractionField x = 0#52 then .zero (.ofBitVec (signField x))
        else .finite (.ofBitVec (signField x)) (fractionField x).toNat ((powerField x).toNat - 1075 + 1)
          (fraction_positive x none)
      else .finite (.ofBitVec (signField x)) (1#1 ++ fractionField x).toNat ((powerField x).toNat - 1075)
        (raised_fraction x ▸ Nat.succ_pos _) := rfl

theorem float_unpacked (finite : x.isFinite = true) : Unpacked x x.toModel.unpack := by
  obtain ⟨_, power, fraction⟩ := float_fields x
  have fractionBound : (fractionField x).toNat < 2 ^ 52 := (fractionField x).isLt
  have powerBound : (powerField x).toNat < 2 ^ 11 := (powerField x).isLt
  have checked : x.toModel.unpack.isFinite = true := finite
  rw [unpack_fields] at checked ⊢
  by_cases endless : powerField x = -1#11
  · rw [if_pos endless] at checked
    split at checked <;> cases checked
  rw [if_neg endless]
  by_cases least : powerField x = 0#11
  · have none : x.toBits.toNat / 0x10000000000000 % 0x800 = 0 := power.symm.trans (congrArg BitVec.toNat least)
    rw [if_pos least]
    by_cases zero : fractionField x = 0#52
    · rw [dif_pos zero]
      have nothing : x.toBits.toNat % 0x10000000000000 = 0 := fraction.symm.trans (congrArg BitVec.toNat zero)
      exact .zero (by simp [Binary.ofFloat, none, nothing])
    · rw [dif_neg zero]
      refine .finite _ _ _ (by omega) (by omega) (by omega) ?_
      have lowest : ((powerField x).toNat : Int) - 1075 + 1 = -1074 := by omega
      simp [Binary.ofFloat, binaryOf, none, ← fraction, lowest]
  · have below : (powerField x).toNat ≠ 2047 := fun same => endless (BitVec.eq_of_toNat_eq same)
    have above : (powerField x).toNat ≠ 0 := fun same => least (BitVec.eq_of_toNat_eq same)
    have raised := raised_fraction x
    rw [if_neg least]
    refine .finite _ _ _ (by omega) (by omega) (by omega) ?_
    have narrow : ((fractionField x).toNat = 0 ∧ 1 < (powerField x).toNat) ↔
        ((fractionField x).toNat + 0x10000000000000 = 2 ^ 52 ∧ -1074 < ((powerField x).toNat : Int) - 1075) := by omega
    simp only [Binary.ofFloat, binaryOf, ← power, ← fraction, if_neg above, raised, narrow]

theorem float_text_iff (finite : x.isFinite = true) (text : String) :
    FloatText x.toModel.unpack text ↔ text = jsonLayout.writeFloat x := by
  have unpacked := float_unpacked x finite
  unfold Layout.writeFloat
  rw [← sign_text]
  generalize x.toModel.unpack = parts at unpacked
  cases unpacked with
  | zero none =>
    have zero : (Binary.ofFloat x).shortest = ⟨0, 0⟩ := if_pos none
    have written : jsonLayout.write ⟨0, 0⟩ = "0.0" := by decide
    rw [zero, written]
    constructor
    · intro shown
      cases shown
      rfl
    · intro same
      rw [same]
      exact .zero _
  | finite mantissa exponent positive small low high same =>
    rw [same]
    have correct := (binaryOf mantissa exponent).shortest_correct positive small low high
    constructor
    · intro shown
      cases shown with
      | finite _ _ _ _ d text shortest laid =>
        rw [(binaryOf mantissa exponent).shortest_unique _ _ correct shortest, laid_only d text laid]
    · intro written
      rw [written]
      exact .finite _ _ _ _ _ _ correct ((laid_iff _ _).mpr rfl)

end

end Decimal

inductive Number.Written : Number → String → Prop
  | int (value : Int) (fits : -0x8000000000000000 ≤ value ∧ value < 0x10000000000000000) :
      Written (.int value fits) ((if value < 0 then "-" else "") ++ .ofList (Nat.toDigits 10 value.natAbs))
  | float (value : Float) (finite : value.isFinite = true) (text : String)
      (shown : Decimal.FloatText value.toModel.unpack text) : Written (.float value finite) text

theorem Number.written_iff (number : Number) (text : String) : number.Written text ↔ text = number.text := by
  cases number with
  | int value fits =>
    rw [Number.text, Decimal.int_text]
    constructor
    · intro written
      cases written
      rfl
    · intro same
      rw [same]
      exact .int value fits
  | float value finite =>
    refine Iff.trans ?_ (Decimal.float_text_iff value finite text)
    constructor
    · intro written
      cases written with
      | float _ _ _ shown => exact shown
    · exact .float value finite text

end JsonRpc
