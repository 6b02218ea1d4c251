import Mathlib
import Scribe.Decimal.Layout
import Scribe.Json.Decode

/-!
# Integers as doubles

The double that stands for an integer of 64 bits is finite: its exponent stays far below the
one that infinity is written with.
-/

namespace Scribe.Decimal

open Float.Model hiding pack
open Float.Model.UnpackedFloat

/-! ## Exponents -/

/-- A number whose exponent is not too large for a finite double. -/
def Writable : UnpackedFloat → Prop
  | .zero _ => True
  | .finite _ _ exponent _ => exponent ≤ 971
  | _ => False

theorem exponent_toNat (bits : BitVec Format.binary64.numBits) :
    (unpackExponent bits).toNat = bits.toNat / 0x10000000000000 % 0x800 := by
  simp [unpackExponent, BitVec.extractLsb_toNat, Nat.shiftRight_eq_div_pow]

theorem exponent_pack {value : UnpackedFloat} (writable : Writable value) :
    (unpackExponent (pack Format.binary64 value)).toNat < 2047 := by
  cases value with
  | zero sign => simp [UnpackedFloat.pack, packedZero]
  | finite sign mantissa exponent pos =>
      have small : exponent ≤ 971 := writable
      have bias : (Format.binary64.exponentBias : Int) = 1023 := rfl
      have few : ¬2 ^ 11 ≤ (exponent + 1023 + 52).toNat + 1 := by omega
      simp only [UnpackedFloat.pack, bias]
      split
      next many => exact absurd many few
      · split
        · rw [unpackExponent_packComponents, BitVec.toNat_ofNat]
          refine Nat.lt_of_le_of_lt (Nat.mod_le _ _) ?_
          omega
        · rw [unpackExponent_packComponents]
          decide
  | _ => cases writable

/-- A double that was packed from a number with a small exponent is finite. -/
theorem isFinite_pack {value : UnpackedFloat} (writable : Writable value) :
    isFinite ⟨Float.Model.pack value⟩ = true := by
  have small := exponent_pack writable
  rw [exponent_toNat] at small
  exact decide_eq_true small

/-! ## Rounding -/

theorem mantissa_shift (extended : ExtendedMantissa) (count : Nat) :
    (extended >>> count).mantissa = extended.mantissa / 2 ^ count := by
  induction count with
  | zero => exact (Nat.div_one _).symm
  | succ count ih =>
      calc (extended >>> (count + 1)).mantissa
          = (extended >>> count).mantissa / 2 := rfl
        _ = extended.mantissa / 2 ^ (count + 1) := by rw [ih, Nat.div_div_eq_div_mul, pow_succ]

theorem mantissa_shift_le (extended : ExtendedMantissa) (count : Nat) :
    (extended >>> count).mantissa ≤ extended.mantissa := by
  rw [mantissa_shift]
  exact Nat.div_le_self _ _

theorem roundedMantissa_le (extended : ExtendedMantissa) :
    extended.roundedMantissa ≤ extended.mantissa + 1 := by
  obtain ⟨mantissa, half, rest⟩ := extended
  cases half <;> cases rest <;>
    simp [ExtendedMantissa.roundedMantissa, ExtendedMantissa.accuracy, Accuracy.roundToNearestEven]
  omega

theorem exponent_shift_le {mantissa : Nat} {exponent bound : Int} (accuracy : Accuracy)
    (least : -1074 ≤ bound) (before : exponent ≤ bound)
    (after : mantissa.log2 + 1 + exponent - 53 ≤ bound) :
    (shiftToTargetExponent Format.binary64 mantissa exponent accuracy).2 ≤ bound := by
  have width : (Format.binary64.mantissaBits : Int) = 53 := rfl
  have lowest : Format.binary64.minExponent = -1074 := rfl
  simp only [shiftToTargetExponent, shiftToExponent, Format.targetExponent, totalExponent, width,
    lowest]
  omega

theorem mantissa_shift_exact_le (mantissa : Nat) (exponent : Int) :
    (shiftToTargetExponent Format.binary64 mantissa exponent .exact).1.mantissa ≤ mantissa :=
  mantissa_shift_le _ _

theorem log2_le_of_lt {mantissa bits : Nat} (fits : mantissa < 2 ^ (bits + 1)) :
    mantissa.log2 ≤ bits := by
  rcases Nat.eq_zero_or_pos mantissa with rfl | pos
  · exact Nat.zero_le _
  · exact Nat.le_of_lt_succ ((Nat.log2_lt (Nat.ne_of_gt pos)).mpr fits)

/-- What is below two to the 64th can be written after rounding. -/
theorem writable_roundWithAccuracy (sign : Sign) {mantissa : Nat} {exponent : Int}
    (fits : mantissa < 2 ^ 64) (small : exponent ≤ 0) :
    Writable (roundWithAccuracy Format.binary64 sign mantissa exponent .exact) := by
  have wide := log2_le_of_lt fits
  rw [roundWithAccuracy]
  have shifted := mantissa_shift_exact_le mantissa exponent
  have first : (shiftToTargetExponent Format.binary64 mantissa exponent .exact).2 ≤ 11 :=
    exponent_shift_le .exact (by omega) (by omega) (by omega)
  generalize shiftToTargetExponent Format.binary64 mantissa exponent .exact = shifting at *
  obtain ⟨extended, middle⟩ := shifting
  have rounded := roundedMantissa_le extended
  have wider : extended.roundedMantissa.log2 ≤ 64 := log2_le_of_lt (by simp only at shifted; omega)
  have second : (shiftToTargetExponent Format.binary64 extended.roundedMantissa middle .exact).2 ≤
    971 := exponent_shift_le .exact (by omega) (by simp only at first; omega)
      (by simp only at first; omega)
  simp only
  split
  · trivial
  · exact second

theorem writable_round (sign : Sign) {mantissa : Nat} (fits : mantissa < 2 ^ 64) :
    Writable (UnpackedFloat.round Format.binary64 sign mantissa 0) := by
  have width : (Format.binary64.mantissaBits : Int) = 53 := rfl
  have lowest : Format.binary64.minExponent = -1074 := rfl
  rw [UnpackedFloat.round]
  simp only [decreaseExponent, Format.targetExponent, totalExponent, width, lowest]
  refine writable_roundWithAccuracy sign ?_ (by omega)
  generalize amount : (0 - max ((mantissa.log2 : Int) + 1 + 0 - 53) (-1074)).toNat = count
  rw [Nat.shiftLeft_eq]
  rcases Nat.eq_zero_or_pos count with rfl | shifts
  · rwa [Nat.pow_zero, Nat.mul_one]
  · have scale : mantissa.log2 + 1 + count ≤ 64 := by omega
    calc mantissa * 2 ^ count
        < 2 ^ (mantissa.log2 + 1) * 2 ^ count :=
          Nat.mul_lt_mul_of_pos_right Nat.lt_log2_self (Nat.two_pow_pos count)
      _ = 2 ^ (mantissa.log2 + 1 + count) := (Nat.pow_add 2 _ _).symm
      _ ≤ 2 ^ 64 := Nat.pow_le_pow_right (by decide) scale

theorem writable_ofNat {value : Nat} (fits : value < 2 ^ 64) :
    Writable (UnpackedFloat.ofNat Format.binary64 value) := by
  rw [UnpackedFloat.ofNat, UnpackedFloat.ofInt, UnpackedFloat.normalize]
  split
  · exact writable_round _ (by omega)
  · trivial
  · exact writable_round _ (by omega)

/-! ## Doubles of integers -/

theorem isFinite_toFloat (value : UInt64) : isFinite value.toFloat = true :=
  isFinite_pack (writable_ofNat value.toNat_lt)

theorem writable_unpack {value : Float.Model} (finite : isFinite ⟨value⟩ = true) :
    Writable value.unpack := by
  have small : (@unpackExponent Format.binary64 value.toBits.toBitVec).toNat < 2047 := by
    rw [exponent_toNat]
    exact of_decide_eq_true finite
  have bias : (Format.binary64.exponentBias : Int) = 1023 := rfl
  rw [Float.Model.unpack, UnpackedFloat.unpack]
  generalize @unpackExponent Format.binary64 value.toBits.toBitVec = exponent at small
  simp only [bias]
  split
  next ones =>
    subst ones
    exact absurd small (by decide)
  · split
    next zero =>
      have none : exponent.toNat = 0 := by rw [zero]; rfl
      split
      · trivial
      · simp only [Writable, none]
        decide
    · simp only [Writable]
      omega

theorem isFinite_neg {value : Float} (finite : isFinite value = true) :
    isFinite (-value) = true := by
  refine isFinite_pack ?_
  have writable := writable_unpack finite
  cases unpacked : value.toModel.unpack with
  | zero sign => trivial
  | finite sign mantissa exponent pos =>
      rw [unpacked] at writable
      exact writable
  | _ =>
      rw [unpacked] at writable
      cases writable

/-- The double that stands for an integer is finite. -/
theorem isFinite_floatOfInt (value : Int) : isFinite (Json.Document.floatOfInt value) = true := by
  rw [Json.Document.floatOfInt]
  split
  · exact isFinite_neg (isFinite_toFloat _)
  · exact isFinite_toFloat _

end Scribe.Decimal
