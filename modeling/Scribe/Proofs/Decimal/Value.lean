import Mathlib
import Scribe.Proofs.Decimal.Finite

/-!
# The numbers that doubles stand for

A double that is not negative stands for a rational number: a mantissa at an exponent of two.
Among the ways to write one number in this form doubles use one, which is why packing loses
nothing and why doubles compare as their numbers do.
-/

namespace Scribe.Decimal

open Float.Model hiding pack
open Float.Model.UnpackedFloat

/-! ## Mantissas and exponents -/

/-- A mantissa and an exponent as finite doubles have them: the mantissa has 53 bits, unless the
exponent is the lowest one. -/
structure Canonical (mantissa : Nat) (exponent : Int) : Prop where
  pos : 0 < mantissa
  short : mantissa < 2 ^ 53
  low : -1074 ≤ exponent
  high : exponent ≤ 971
  full : 2 ^ 52 ≤ mantissa ∨ exponent = -1074

theorem toNat_append_one (fraction : BitVec 52) :
    (1#1 ++ fraction).toNat = 2 ^ 52 + fraction.toNat := by
  rw [BitVec.toNat_append, ← Nat.shiftLeft_add_eq_or_of_lt fraction.isLt]
  rfl

theorem fraction_toNat (bits : BitVec Format.binary64.numBits) :
    (unpackMantissa bits).toNat = bits.toNat % 0x10000000000000 := by
  simp [unpackMantissa, BitVec.extractLsb_toNat]

/-- What the bits of a finite double say about its parts. -/
theorem parts_of_unpack {bits : BitVec Format.binary64.numBits} {sign : Sign} {mantissa : Nat}
    {exponent : Int} {pos : 0 < mantissa}
    (unpacked : UnpackedFloat.unpack Format.binary64 bits = .finite sign mantissa exponent pos) :
    bits.toNat / 0x10000000000000 % 0x800 < 2047 ∧
      ((bits.toNat / 0x10000000000000 % 0x800 = 0 ∧ mantissa = bits.toNat % 0x10000000000000 ∧
          exponent = -1074) ∨
        (bits.toNat / 0x10000000000000 % 0x800 ≠ 0 ∧
          mantissa = bits.toNat % 0x10000000000000 + 0x10000000000000 ∧
          exponent = (bits.toNat / 0x10000000000000 % 0x800 : Nat) - 1075)) := by
  have bias : (Format.binary64.exponentBias : Int) = 1023 := rfl
  have fraction := fraction_toNat bits
  have field := exponent_toNat bits
  rw [UnpackedFloat.unpack] at unpacked
  simp only [bias, field] at unpacked
  split at unpacked
  · split at unpacked <;> cases unpacked
  · next finite =>
    have below : bits.toNat / 0x10000000000000 % 0x800 ≠ 2047 :=
      fun ones => finite (BitVec.eq_of_toNat_eq (field.trans ones))
    split at unpacked
    · next zero =>
      rw [zero] at field
      split at unpacked
      · cases unpacked
      · injection unpacked with _ mantissaEq exponentEq
        refine ⟨by omega, Or.inl ⟨field.symm, ?_, ?_⟩⟩
        · rw [← mantissaEq, fraction]
        · rw [← exponentEq, ← field]
          rfl
    · next normal =>
      have nonzero : bits.toNat / 0x10000000000000 % 0x800 ≠ 0 :=
        fun zero => normal (BitVec.eq_of_toNat_eq (field.trans zero))
      injection unpacked with _ mantissaEq exponentEq
      rw [toNat_append_one, fraction] at mantissaEq
      exact ⟨by omega, Or.inr ⟨nonzero, by omega, by omega⟩⟩

/-- The parts of a finite double are canonical. -/
theorem canonical_of_unpack {bits : BitVec Format.binary64.numBits} {sign : Sign} {mantissa : Nat}
    {exponent : Int} {pos : 0 < mantissa}
    (unpacked : UnpackedFloat.unpack Format.binary64 bits = .finite sign mantissa exponent pos) :
    Canonical mantissa exponent := by
  obtain ⟨few, ⟨none, mantissaEq, exponentEq⟩ | ⟨some, mantissaEq, exponentEq⟩⟩ :=
    parts_of_unpack unpacked
  · exact ⟨pos, by omega, by omega, by omega, Or.inr exponentEq⟩
  · exact ⟨pos, by omega, by omega, by omega, Or.inl (by omega)⟩

theorem fraction_of_unpack_zero {bits : BitVec Format.binary64.numBits} {sign : Sign}
    (unpacked : UnpackedFloat.unpack Format.binary64 bits = .zero sign) :
    bits.toNat / 0x10000000000000 % 0x800 = 0 ∧ bits.toNat % 0x10000000000000 = 0 := by
  have fraction := fraction_toNat bits
  have field := exponent_toNat bits
  rw [UnpackedFloat.unpack] at unpacked
  split at unpacked
  · split at unpacked <;> cases unpacked
  · split at unpacked
    · next zero =>
      split at unpacked
      · next none =>
        rw [← field, ← fraction, zero, none]
        exact ⟨rfl, rfl⟩
      · cases unpacked
    · cases unpacked

theorem ofBitVec_toBitVec (sign : Sign) : Sign.ofBitVec sign.toBitVec = sign := by
  cases sign <;> rfl

theorem unpackSign_packComponents {spec : Format} {sign : Sign}
    {field : BitVec spec.exponentBits} {fraction : BitVec spec.mantissaBitsWithoutImplicit} :
    unpackSign (packComponents spec sign field fraction) = sign.toBitVec := by
  ext i least
  obtain rfl : i = 0 := by omega
  simp [unpackSign, packComponents, BitVec.getLsbD_append, BitVec.getElem_append]

theorem finite_congr {sign : Sign} {left right : Nat} {below above : Int} {leftPos : 0 < left}
    {rightPos : 0 < right} (mantissas : left = right) (exponents : below = above) :
    UnpackedFloat.finite sign left below leftPos = .finite sign right above rightPos := by
  subst mantissas exponents
  rfl

variable {sign : Sign} {mantissa : Nat} {exponent : Int}

theorem log2_of_full (canonical : Canonical mantissa exponent) (full : 2 ^ 52 ≤ mantissa) :
    mantissa.log2 = 52 :=
  (Nat.log2_eq_iff (Nat.ne_of_gt canonical.pos)).mpr ⟨full, canonical.short⟩

theorem log2_of_not_full (pos : 0 < mantissa) (full : ¬2 ^ 52 ≤ mantissa) :
    mantissa.log2 < 52 :=
  (Nat.log2_lt (Nat.ne_of_gt pos)).mpr (Nat.not_le.mp full)

/-- Packing canonical parts loses nothing. -/
theorem unpack_pack_finite (canonical : Canonical mantissa exponent) :
    UnpackedFloat.unpack Format.binary64
      (UnpackedFloat.pack Format.binary64 (.finite sign mantissa exponent canonical.pos)) =
    .finite sign mantissa exponent canonical.pos := by
  have bias : (Format.binary64.exponentBias : Int) = 1023 := rfl
  have width : Format.binary64.mantissaBits = 53 := rfl
  obtain ⟨pos, short, low, high, -⟩ := id canonical
  have few : ¬2 ^ 11 ≤ (exponent + 1023 + (52 : Nat)).toNat + 1 := by omega
  simp only [UnpackedFloat.pack, bias, width]
  rw [if_neg few]
  by_cases full : 2 ^ 52 ≤ mantissa
  · rw [if_pos (by rw [log2_of_full canonical full])]
    have field : (BitVec.ofNat 11 (exponent + 1023 + (52 : Nat)).toNat).toNat =
        (exponent + 1023 + (52 : Nat)).toNat := by
      rw [BitVec.toNat_ofNat]; omega
    have fraction : (BitVec.ofNat 52 mantissa).toNat = mantissa - 2 ^ 52 := by
      rw [BitVec.toNat_ofNat]; omega
    have notOnes : BitVec.ofNat 11 (exponent + 1023 + (52 : Nat)).toNat ≠ -1#11 := fun ones => by
      rw [ones] at field
      simp at field
      omega
    have notZero : BitVec.ofNat 11 (exponent + 1023 + (52 : Nat)).toNat ≠ 0#11 := fun zero => by
      rw [zero] at field
      simp at field
      omega
    simp only [UnpackedFloat.unpack, unpackExponent_packComponents, unpackMantissa_packComponents,
      unpackSign_packComponents, ofBitVec_toBitVec, bias]
    rw [if_neg notOnes, if_neg notZero]
    refine finite_congr ?_ ?_
    · rw [toNat_append_one, fraction]
      omega
    · rw [field]
      omega
  · have lowest : exponent = -1074 := canonical.full.resolve_left full
    rw [if_neg (by have := log2_of_not_full pos full; omega)]
    have fraction : (BitVec.ofNat 52 mantissa).toNat = mantissa := by
      rw [BitVec.toNat_ofNat]; omega
    have notZero : BitVec.ofNat 52 mantissa ≠ 0#52 := fun zero => by
      rw [zero] at fraction
      simp at fraction
      omega
    simp only [UnpackedFloat.unpack, unpackExponent_packComponents, unpackMantissa_packComponents,
      unpackSign_packComponents, ofBitVec_toBitVec, bias]
    rw [if_neg (by decide), if_pos trivial, dif_neg notZero]
    exact finite_congr fraction (by rw [lowest]; rfl)

theorem unpack_pack_zero :
    UnpackedFloat.unpack Format.binary64 (UnpackedFloat.pack Format.binary64 (.zero sign)) =
    .zero sign := by
  cases sign <;> rfl

/-! ## Values -/

/-- The number of a mantissa at an exponent of two. -/
def scaled (mantissa : Nat) (exponent : Int) : ℚ := mantissa * 2 ^ exponent

theorem two_zpow_pos (exponent : Int) : (0 : ℚ) < 2 ^ exponent := zpow_pos two_pos exponent

theorem scaled_nonneg (mantissa : Nat) (exponent : Int) : 0 ≤ scaled mantissa exponent :=
  mul_nonneg mantissa.cast_nonneg (two_zpow_pos exponent).le

theorem scaled_le_scaled {left right : Nat} (exponent : Int) (below : left ≤ right) :
    scaled left exponent ≤ scaled right exponent :=
  mul_le_mul_of_nonneg_right (Nat.cast_le.mpr below) (two_zpow_pos exponent).le

theorem scaled_mul_pow (mantissa count : Nat) (exponent : Int) :
    scaled (mantissa * 2 ^ count) exponent = scaled mantissa (exponent + count) := by
  rw [scaled, scaled, zpow_add₀ two_ne_zero, zpow_natCast]
  push_cast
  ring

theorem scaled_succ (mantissa : Nat) (exponent : Int) :
    scaled (mantissa + 1) exponent = scaled mantissa exponent + 2 ^ exponent := by
  rw [scaled, scaled]
  push_cast
  ring

/-- A double that is not negative, and the number that it stands for. -/
inductive Reads : UnpackedFloat → ℚ → Prop
  | zero (sign : Sign) : Reads (.zero sign) 0
  | finite {mantissa : Nat} {exponent : Int} (canonical : Canonical mantissa exponent) :
      Reads (.finite .positive mantissa exponent canonical.pos) (scaled mantissa exponent)

/-- What a double stands for. -/
def Denotes (value : Float) (number : ℚ) : Prop := Reads value.toModel.unpack number

theorem Reads.nonneg {value : UnpackedFloat} {number : ℚ} (reads : Reads value number) :
    0 ≤ number := by
  cases reads with
  | zero => exact le_refl 0
  | finite => exact scaled_nonneg _ _

theorem denotes_pack {value : UnpackedFloat} {number : ℚ} (reads : Reads value number) :
    Denotes ⟨Float.Model.pack value⟩ number := by
  have same : (Float.Model.pack value).unpack = value := by
    cases reads with
    | zero => exact unpack_pack_zero
    | finite canonical => exact unpack_pack_finite canonical
  rwa [Denotes, same]

theorem denotes_of_parts {value : Float} (canonical : Canonical mantissa exponent)
    (parts : value.toModel.unpack = .finite .positive mantissa exponent canonical.pos) :
    Denotes value (scaled mantissa exponent) := by
  rw [Denotes, parts]
  exact Reads.finite canonical

/-- Taking the bits of a double apart gives the number that it stands for. -/
theorem scaled_ofBits {value : Float} {number : ℚ} (denotes : Denotes value number) :
    scaled (Binary.ofBits value.toBits.toNat).mantissa
      (Binary.ofBits value.toBits.toNat).exponent = number := by
  have bits : value.toModel.unpack =
    UnpackedFloat.unpack Format.binary64 value.toBits.toBitVec := rfl
  have same : value.toBits.toBitVec.toNat = value.toBits.toNat := rfl
  rw [Denotes, bits] at denotes
  rw [Binary.ofBits]
  generalize unpacked : UnpackedFloat.unpack Format.binary64 value.toBits.toBitVec = parts
    at denotes
  cases denotes with
  | zero =>
      obtain ⟨none, zero⟩ := fraction_of_unpack_zero unpacked
      rw [same] at none zero
      simp only [none, zero, if_true]
      rw [scaled, Nat.cast_zero, zero_mul]
  | finite =>
      obtain ⟨few, ⟨none, mantissaEq, exponentEq⟩ | ⟨some, mantissaEq, exponentEq⟩⟩ :=
        parts_of_unpack unpacked
      · rw [same] at none mantissaEq
        simp only [none, if_true, mantissaEq, exponentEq]
      · rw [same] at some mantissaEq exponentEq
        simp only [some, if_false, mantissaEq, exponentEq]

/-! ## Comparison -/

theorem scaled_lt_of_exponent_lt {left right : Nat} {below above : Int}
    (leftForm : Canonical left below) (rightForm : Canonical right above) (lower : below < above) :
    scaled left below < scaled right above := by
  have full : 2 ^ 52 ≤ right := rightForm.full.resolve_right (by have := leftForm.low; omega)
  calc scaled left below
      < 2 ^ 53 * 2 ^ below :=
        mul_lt_mul_of_pos_right (by exact_mod_cast leftForm.short) (two_zpow_pos below)
    _ = 2 ^ 52 * 2 ^ (below + 1) := by rw [zpow_add_one₀ two_ne_zero]; ring
    _ ≤ 2 ^ 52 * 2 ^ above :=
        mul_le_mul_of_nonneg_left (zpow_le_zpow_right₀ one_le_two (by omega)) (by norm_num)
    _ ≤ scaled right above :=
        mul_le_mul_of_nonneg_right (by exact_mod_cast full) (two_zpow_pos above).le

theorem scaled_pos {mantissa : Nat} {exponent : Int} (pos : 0 < mantissa) :
    0 < scaled mantissa exponent :=
  mul_pos (by exact_mod_cast pos) (two_zpow_pos exponent)

/-- Doubles compare as the numbers that they stand for. -/
theorem compare_eq {left right : UnpackedFloat} {x y : ℚ} (first : Reads left x)
    (second : Reads right y) : left.compare right = some (compare x y) := by
  cases first with
  | zero sign =>
      cases second with
      | zero => rfl
      | finite form => exact congrArg some (compare_lt_iff_lt.mpr (scaled_pos form.pos)).symm
  | @finite leftMantissa leftExponent leftForm =>
      cases second with
      | zero => exact congrArg some (compare_gt_iff_gt.mpr (scaled_pos leftForm.pos)).symm
      | @finite rightMantissa rightExponent rightForm =>
          rw [UnpackedFloat.compare]
          refine congrArg some ?_
          rcases lt_trichotomy leftExponent rightExponent with lower | rfl | higher
          · rw [compare_lt_iff_lt.mpr lower]
            exact (compare_lt_iff_lt.mpr (scaled_lt_of_exponent_lt leftForm rightForm lower)).symm
          · rw [compare_eq_iff_eq.mpr rfl, Ordering.eq_then]
            rcases lt_trichotomy leftMantissa rightMantissa with less | rfl | more
            · rw [compare_lt_iff_lt.mpr less]
              refine (compare_lt_iff_lt.mpr ?_).symm
              exact mul_lt_mul_of_pos_right (by exact_mod_cast less) (two_zpow_pos _)
            · rw [compare_eq_iff_eq.mpr rfl]
              exact (compare_eq_iff_eq.mpr rfl).symm
            · rw [compare_gt_iff_gt.mpr more]
              refine (compare_gt_iff_gt.mpr ?_).symm
              exact mul_lt_mul_of_pos_right (by exact_mod_cast more) (two_zpow_pos _)
          · rw [compare_gt_iff_gt.mpr higher]
            exact (compare_gt_iff_gt.mpr (scaled_lt_of_exponent_lt rightForm leftForm higher)).symm

variable {left right : Float} {x y : ℚ}

theorem lt_iff_unpack (left right : Float) :
    left < right ↔ left.toModel.unpack.lt right.toModel.unpack = true :=
  decide_eq_true_iff

theorem le_iff_unpack (left right : Float) :
    left ≤ right ↔ left.toModel.unpack.le right.toModel.unpack = true :=
  decide_eq_true_iff

theorem lt_iff (first : Denotes left x) (second : Denotes right y) : left < right ↔ x < y := by
  rw [lt_iff_unpack, UnpackedFloat.lt, compare_eq first second, ← compare_lt_iff_lt]
  exact ⟨fun same => by simpa using same, fun same => by simpa using same⟩

theorem le_iff (first : Denotes left x) (second : Denotes right y) : left ≤ right ↔ x ≤ y := by
  rw [le_iff_unpack, UnpackedFloat.le, compare_eq first second, ← compare_le_iff_le]
  simp [Ordering.isLE_iff_ne_gt]

/-- A double that is not below zero and not above another one that stands for a number stands for
one itself. -/
theorem denotes_of_le (nonneg : 0.0 ≤ left) (below : left ≤ right) (second : Denotes right y) :
    ∃ number, Denotes left number ∧ number ≤ y := by
  have form : ∃ number, Denotes left number := by
    have positive : (UnpackedFloat.zero .positive).le left.toModel.unpack = true :=
      (le_iff_unpack _ _).mp nonneg
    have bounded : left.toModel.unpack.le right.toModel.unpack = true :=
      (le_iff_unpack _ _).mp below
    rw [Denotes] at second
    simp only [Denotes]
    cases unpacked : left.toModel.unpack with
    | notANumber =>
        rw [unpacked] at positive
        cases positive
    | infinity sign =>
        rw [unpacked] at positive bounded
        generalize right.toModel.unpack = right at second bounded
        cases sign with
        | negative => cases positive
        | positive => cases second <;> cases bounded
    | zero sign => exact ⟨0, Reads.zero sign⟩
    | finite sign mantissa exponent pos =>
        cases sign with
        | negative =>
            rw [unpacked] at positive
            cases positive
        | positive => exact ⟨_, Reads.finite (canonical_of_unpack unpacked)⟩
  obtain ⟨number, denotes⟩ := form
  exact ⟨number, denotes, (le_iff denotes second).mp below⟩

end Scribe.Decimal
