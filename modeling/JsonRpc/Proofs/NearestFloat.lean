import Mathlib
import JsonRpc.Json.Basic

set_option autoImplicit false

namespace JsonRpc

open Float.Model Float.Model.UnpackedFloat

-- A float that is neither zero nor subnormal, with less than the greatest exponent.
inductive NormalFloat (sign : Sign) : UnpackedFloat → Prop
  | finite (mantissa : Nat) (exponent : Int) (positive : 0 < mantissa) (full : mantissa.log2 = 52)
      (low : -1074 ≤ exponent) (high : exponent ≤ 970) : NormalFloat sign (.finite sign mantissa exponent positive)

theorem shifted_mantissa (extended : ExtendedMantissa) (amount : Nat) :
    (extended >>> amount).mantissa = extended.mantissa / 2 ^ amount := by
  induction amount with
  | zero => simp [HShiftRight.hShiftRight, Nat.repeat]
  | succ amount ih =>
      have once : (extended >>> (amount + 1)).mantissa = (extended >>> amount).mantissa / 2 := rfl
      rw [once, ih, Nat.div_div_eq_div_mul, ← Nat.pow_succ]

theorem rounded_mantissa_cases (extended : ExtendedMantissa) :
    extended.roundedMantissa = extended.mantissa ∨ extended.roundedMantissa = extended.mantissa + 1 := by
  obtain ⟨mantissa, round, sticky⟩ := extended
  have even := Nat.mod_two_eq_zero_or_one mantissa
  cases round <;> cases sticky <;>
    simp [ExtendedMantissa.roundedMantissa, ExtendedMantissa.accuracy, Accuracy.roundToNearestEven, even]

theorem shifted_to_target (mantissa : Nat) (exponent : Int) (accuracy : Accuracy) (long : 52 ≤ mantissa.log2)
    (low : -1074 ≤ exponent) :
    let shifted := shiftToTargetExponent Format.binary64 mantissa exponent accuracy
    shifted.1.mantissa = mantissa / 2 ^ (mantissa.log2 - 52) ∧ shifted.2 = exponent + (mantissa.log2 - 52 : Nat) := by
  have amount : (Format.binary64.targetExponent (totalExponent mantissa exponent) - exponent).toNat =
      mantissa.log2 - 52 := by
    simp only [Format.targetExponent, totalExponent, Format.mantissaBits, Format.minExponent]
    omega
  have started : (ExtendedMantissa.ofMantissaAndAccuracy mantissa accuracy).mantissa = mantissa := by
    cases accuracy with
    | exact => rfl
    | inexact half => cases half <;> rfl
  simp only [shiftToTargetExponent, shiftToExponent, amount, shifted_mantissa, started, and_self]

theorem log_shifted (mantissa : Nat) (long : 52 ≤ mantissa.log2) : (mantissa / 2 ^ (mantissa.log2 - 52)).log2 = 52 := by
  simp only [Nat.log2_eq_log_two] at long ⊢
  rw [Nat.log_div_base_pow]
  omega

-- Rounding up may carry into one more bit.
theorem log_rounded (extended : ExtendedMantissa) (full : extended.mantissa.log2 = 52) :
    extended.roundedMantissa.log2 = 52 ∨ extended.roundedMantissa.log2 = 53 := by
  have present : extended.mantissa ≠ 0 := by
    intro none
    simp [none] at full
  obtain ⟨least, most⟩ := (Nat.log2_eq_iff present).mp full
  rcases rounded_mantissa_cases extended with same | next
  · exact .inl (same ▸ full)
  · by_cases carried : extended.roundedMantissa = 2 ^ 53
    · exact .inr (by rw [carried, Nat.log2_two_pow])
    · exact .inl ((Nat.log2_eq_iff (by omega)).mpr (by omega))

theorem rounded_normal (sign : Sign) (mantissa : Nat) (exponent : Int) (long : 52 ≤ mantissa.log2)
    (low : -1074 ≤ exponent) (high : exponent + mantissa.log2 ≤ 1021) :
    NormalFloat sign (roundWithAccuracy Format.binary64 sign mantissa exponent .exact) := by
  obtain ⟨first, raised⟩ := shifted_to_target mantissa exponent .exact long low
  generalize shifted : shiftToTargetExponent Format.binary64 mantissa exponent .exact = once at first raised
  have full := log_shifted mantissa long
  rw [← first] at full
  have near := log_rounded once.1 full
  -- The second shift takes off the bit that may have been carried.
  obtain ⟨second, last⟩ := shifted_to_target once.1.roundedMantissa once.2 .exact (by omega) (by omega)
  have final := log_shifted once.1.roundedMantissa (by omega)
  rw [← second] at final
  have present : (shiftToTargetExponent Format.binary64 once.1.roundedMantissa once.2 .exact).1.mantissa ≠ 0 := by
    intro none
    simp [none] at final
  simp only [roundWithAccuracy, shifted, dif_neg present]
  exact .finite _ _ _ final (by omega) (by omega)

theorem log_grown (mantissa amount : Nat) (positive : mantissa ≠ 0) :
    (mantissa <<< amount).log2 = mantissa.log2 + amount := by
  have bounds := (Nat.log2_eq_iff positive).mp rfl
  have present : mantissa * 2 ^ amount ≠ 0 := Nat.mul_ne_zero positive (Nat.two_pow_pos amount).ne'
  rw [Nat.shiftLeft_eq, Nat.log2_eq_iff present, Nat.add_right_comm, Nat.pow_add, Nat.pow_add 2 (_ + 1)]
  exact ⟨Nat.mul_le_mul_right _ bounds.1, Nat.mul_lt_mul_of_pos_right bounds.2 (Nat.two_pow_pos amount)⟩

theorem round_normal (sign : Sign) (mantissa : Nat) (positive : mantissa ≠ 0) (bound : mantissa.log2 ≤ 1021) :
    NormalFloat sign (UnpackedFloat.round Format.binary64 sign mantissa 0) := by
  have amount : (0 - Format.binary64.targetExponent (totalExponent mantissa 0)).toNat = 52 - mantissa.log2 := by
    simp only [Format.targetExponent, totalExponent, Format.mantissaBits, Format.minExponent]
    omega
  have grown := log_grown mantissa (52 - mantissa.log2) positive
  simp only [UnpackedFloat.round, decreaseExponent, amount]
  exact rounded_normal sign _ _ (by omega) (by omega) (by omega)

theorem exponent_field (biased : Nat) (above : 0 < biased) (below : biased < 2047) :
    (BitVec.ofNat 11 biased).toNat = biased ∧ BitVec.ofNat 11 biased ≠ -1#11 ∧ BitVec.ofNat 11 biased ≠ 0#11 := by
  have field : (BitVec.ofNat 11 biased).toNat = biased := by
    rw [BitVec.toNat_ofNat]
    omega
  refine ⟨field, ?_, ?_⟩
  · intro same
    have ones : biased = 2047 := field.symm.trans (congrArg BitVec.toNat same)
    omega
  · intro same
    have none : biased = 0 := field.symm.trans (congrArg BitVec.toNat same)
    omega

theorem mantissa_field (mantissa : Nat) (positive : mantissa ≠ 0) (full : mantissa.log2 = 52) :
    (1#1 ++ BitVec.ofNat 52 mantissa).toNat = mantissa := by
  obtain ⟨least, most⟩ := (Nat.log2_eq_iff positive).mp full
  rw [BitVec.toNat_append, ← Nat.shiftLeft_add_eq_or_of_lt (BitVec.ofNat 52 mantissa).isLt]
  simp only [Nat.shiftLeft_eq, BitVec.toNat_ofNat]
  omega

theorem pack_normal (sign : Sign) (mantissa : Nat) (exponent : Int) (positive : 0 < mantissa)
    (full : mantissa.log2 = 52) (biased : Nat) (raised : exponent + 1075 = biased) (below : biased < 2047) :
    UnpackedFloat.pack Format.binary64 (.finite sign mantissa exponent positive) =
      packComponents Format.binary64 sign (BitVec.ofNat 11 biased) (BitVec.ofNat 52 mantissa) := by
  have bias : Format.binary64.exponentBias = 1023 := rfl
  have shifted : (exponent + (Format.binary64.exponentBias : Nat) + (52 : Nat)).toNat = biased := by omega
  have inRange : ¬ 2 ^ 11 ≤ biased + 1 := by omega
  have bits : mantissa.log2 + 1 = Format.binary64.mantissaBits := by
    rw [full]
    rfl
  simp only [UnpackedFloat.pack, shifted, if_neg inRange, if_pos bits]

theorem unpack_pack_normal (sign : Sign) (value : UnpackedFloat) (normal : NormalFloat sign value) :
    (Float.Model.pack value).unpack = value := by
  obtain ⟨mantissa, exponent, positive, full, low, high⟩ := normal
  obtain ⟨biased, raised⟩ : ∃ biased : Nat, exponent + 1075 = biased := ⟨(exponent + 1075).toNat, by omega⟩
  obtain ⟨field, noInfinity, noZero⟩ := exponent_field biased (by omega) (by omega)
  have restored := mantissa_field mantissa positive.ne' full
  have packed := pack_normal sign mantissa exponent positive full biased raised (by omega)
  have signed : Sign.ofBitVec (unpackSign (packComponents Format.binary64 sign (BitVec.ofNat 11 biased)
      (BitVec.ofNat 52 mantissa))) = sign := by
    rw [unpackSign_packComponents, Sign.ofBitVec_toBitVec]
  have lowered : (biased : Int) - (Format.binary64.exponentBias + 52 : Nat) = exponent := by
    have bias : Format.binary64.exponentBias = 1023 := rfl
    omega
  have unpacked : (Float.Model.pack (.finite sign mantissa exponent positive)).unpack =
      UnpackedFloat.unpack Format.binary64
        (UnpackedFloat.pack Format.binary64 (.finite sign mantissa exponent positive)) := rfl
  rw [unpacked, packed]
  simp only [UnpackedFloat.unpack, unpackExponent_packComponents, unpackMantissa_packComponents, if_neg noInfinity,
    if_neg noZero, signed, field, restored]
  congr 1

theorem normal_of_uint64 (value : UInt64) (positive : value ≠ 0) :
    NormalFloat .positive value.toFloat.toModel.unpack := by
  have present : value.toNat ≠ 0 := fun none => positive (UInt64.toNat_inj.mp none)
  have rounded : NormalFloat .positive (UnpackedFloat.ofUInt64 Format.binary64 value) := by
    have above : compare (value.toNat : Int) 0 = .gt := by
      rw [compare_gt_iff_gt]
      omega
    have bound : value.toNat.log2 < 64 := (Nat.log2_lt present).mpr value.toNat_lt
    simp only [UnpackedFloat.ofUInt64, UnpackedFloat.ofNat, UnpackedFloat.ofInt, UnpackedFloat.normalize, above]
    exact round_normal .positive value.toNat present (by omega)
  have unpacked : value.toFloat.toModel.unpack = UnpackedFloat.ofUInt64 Format.binary64 value :=
    unpack_pack_normal _ _ rounded
  rw [unpacked]
  exact rounded

theorem normal_of_neg (value : Float) (full : NormalFloat .positive value.toModel.unpack) :
    NormalFloat .negative (-value).toModel.unpack := by
  have opposite : NormalFloat .negative value.toModel.unpack.neg := by
    generalize value.toModel.unpack = unpacked at full
    obtain ⟨mantissa, exponent, positive, full, low, high⟩ := full
    exact .finite mantissa exponent positive full low high
  have unpacked : (-value).toModel.unpack = value.toModel.unpack.neg := unpack_pack_normal _ _ opposite
  rw [unpacked]
  exact opposite

theorem normal_finite (sign : Sign) (value : Float) (full : NormalFloat sign value.toModel.unpack) :
    value.isFinite = true := by
  have same : value.isFinite = value.toModel.unpack.isFinite := rfl
  rw [same]
  generalize value.toModel.unpack = unpacked at full
  cases full
  rfl

theorem zero_unpacked : (0.0 : Float).toModel.unpack = .zero .positive := rfl

theorem below_zero (value : Float) : value < 0.0 ↔ value.toModel.unpack.lt (.zero .positive) = true := by
  rw [← zero_unpacked]
  exact decide_eq_true_iff

theorem equals_zero (value : Float) : (value == 0.0) = value.toModel.unpack.beq (.zero .positive) := by
  rw [← zero_unpacked]
  rfl

namespace Number

def Negative : Number → Prop
  | .int value _ => value < 0
  | .float value _ => value < 0.0

def IsZero : Number → Prop
  | .int value _ => value = 0
  | .float value _ => value = 0.0 ∨ value = -0.0

theorem to_uint64_nonzero (value : Nat) (positive : 0 < value) (bound : value < 0x10000000000000000) :
    value.toUInt64 ≠ 0 := by
  intro none
  have same : value % 0x10000000000000000 = 0 := congrArg UInt64.toNat none
  omega

theorem to_float_normal (value : Int) (fits : -0x8000000000000000 ≤ value ∧ value < 0x10000000000000000)
    (nonzero : value ≠ 0) :
    NormalFloat (if value < 0 then .negative else .positive) (Number.int value fits).toFloat.toModel.unpack := by
  by_cases below : value < 0
  · have present := to_uint64_nonzero value.natAbs (by omega) (by omega)
    simp only [toFloat, if_pos below, if_neg (show ¬ 0 ≤ value by omega)]
    exact normal_of_neg _ (normal_of_uint64 _ present)
  · have present := to_uint64_nonzero value.toNat (by omega) (by omega)
    simp only [toFloat, if_neg below, if_pos (show 0 ≤ value by omega)]
    exact normal_of_uint64 _ present

theorem to_float_zero (fits : (-0x8000000000000000 : Int) ≤ 0 ∧ (0 : Int) < 0x10000000000000000) :
    (Number.int 0 fits).toFloat.toModel.unpack = .zero .positive := by
  have same : (Number.int 0 fits).toFloat = (0 : UInt64).toFloat := by simp [toFloat]
  rw [same]
  exact unpack_packedZero

theorem to_float_finite (number : Number) : number.toFloat.isFinite = true := by
  cases number with
  | float value finite => exact finite
  | int value fits =>
      by_cases none : value = 0
      · subst none
        have same : (Number.int 0 fits).toFloat.isFinite = (Number.int 0 fits).toFloat.toModel.unpack.isFinite := rfl
        rw [same, to_float_zero]
        rfl
      · exact normal_finite _ _ (to_float_normal value fits none)

theorem normal_below_zero (sign : Sign) (value : Float) (normal : NormalFloat sign value.toModel.unpack) :
    value < 0.0 ↔ sign = .negative := by
  rw [below_zero]
  generalize value.toModel.unpack = unpacked at normal
  cases normal
  cases sign <;> simp [UnpackedFloat.lt, UnpackedFloat.compare]

theorem normal_no_zero (sign : Sign) (value : Float) (normal : NormalFloat sign value.toModel.unpack) :
    (value == 0.0) = false := by
  rw [equals_zero]
  generalize value.toModel.unpack = unpacked at normal
  cases normal
  cases sign <;> rfl

theorem to_float_negative (number : Number) : number.toFloat < 0.0 ↔ number.Negative := by
  cases number with
  | float value finite => exact Iff.rfl
  | int value fits =>
      by_cases none : value = 0
      · subst none
        rw [below_zero, to_float_zero, Negative]
        decide
      · rw [normal_below_zero _ _ (to_float_normal value fits none), Negative]
        split <;> simp_all

theorem to_float_is_zero (number : Number) : (number.toFloat == 0.0) = true ↔ number.IsZero := by
  cases number with
  | float value finite =>
      have notNaN : value ≠ Float.nan := by
        rintro rfl
        exact absurd finite (by decide)
      have zero : (0.0 : Float) = 0 := by decide
      have plain : (0 : Float) ≠ Float.nan ∧ (0 : Float) ≠ -0 := by decide
      simp [toFloat, IsZero, Float.beq_iff_ne_nan_and_eq, zero, notNaN, plain]
  | int value fits =>
      by_cases none : value = 0
      · subst none
        rw [equals_zero, to_float_zero, IsZero]
        decide
      · simp [normal_no_zero _ _ (to_float_normal value fits none), IsZero, none]

end Number

end JsonRpc
