import Scribe.Proofs.Decimal.Value

/-!
# Rounding

The result of an operation on doubles is rounded: it stays within the gap between the doubles
around the exact result.  Only the two candidates for a rounded mantissa matter for this, not
which of them is nearer.
-/

namespace Scribe.Decimal

open Float.Model hiding pack
open Float.Model.UnpackedFloat

/-- The distance of doubles around a number of some size is at most this. -/
def gap (size : ℚ) : ℚ := size / 2 ^ 52 + 2 ^ (-1074 : Int)

theorem gap_nonneg {number : ℚ} (nonneg : 0 ≤ number) : 0 ≤ gap number :=
  add_nonneg (div_nonneg nonneg (by norm_num)) (two_zpow_pos _).le

theorem gap_le (size : ℚ) : gap size ≤ size / 2 ^ 52 + 1 / 2 ^ 100 := by
  have tiny : (2 : ℚ) ^ (-1074 : Int) ≤ 2 ^ (-100 : Int) :=
    zpow_le_zpow_right₀ one_le_two (by norm_num)
  have same : (2 : ℚ) ^ (-100 : Int) = 1 / 2 ^ 100 := by norm_num
  exact add_le_add le_rfl (tiny.trans same.le)

/-! ## Shifting -/

theorem targetExponent_eq (mantissa : Nat) (exponent : Int) :
    Format.binary64.targetExponent (totalExponent mantissa exponent) =
      max ((mantissa.log2 : Int) + exponent - 52) (-1074) := by
  have width : (Format.binary64.mantissaBits : Int) = 53 := rfl
  have lowest : Format.binary64.minExponent = -1074 := rfl
  rw [Format.targetExponent, totalExponent, width, lowest]
  omega

theorem mantissa_ofMantissaAndAccuracy (mantissa : Nat) (accuracy : Accuracy) :
    (ExtendedMantissa.ofMantissaAndAccuracy mantissa accuracy).mantissa = mantissa := by
  cases accuracy with
  | exact => rfl
  | inexact side => cases side <;> rfl

theorem le_roundedMantissa (extended : ExtendedMantissa) :
    extended.mantissa ≤ extended.roundedMantissa := by
  obtain ⟨mantissa, half, rest⟩ := extended
  cases half <;> cases rest <;>
    simp [ExtendedMantissa.roundedMantissa, ExtendedMantissa.accuracy, Accuracy.roundToNearestEven]

/-- What a mantissa of at most 53 bits and its exponent become when they are settled once more:
only the mantissa that rounding carried over to a power of two moves. -/
theorem settle_spec {mantissa : Nat} {exponent : Int} (short : mantissa ≤ 2 ^ 53)
    (low : -1074 ≤ exponent) (high : exponent < 971)
    (full : 2 ^ 52 ≤ mantissa ∨ exponent = -1074) (pos : 0 < mantissa) :
    ∃ kept raised, (shiftToTargetExponent Format.binary64 mantissa exponent .exact).1.mantissa =
        kept ∧
      (shiftToTargetExponent Format.binary64 mantissa exponent .exact).2 = raised ∧
      Canonical kept raised ∧ scaled kept raised = scaled mantissa exponent := by
  have target := targetExponent_eq mantissa exponent
  simp only [shiftToTargetExponent, shiftToExponent, mantissa_shift,
    mantissa_ofMantissaAndAccuracy, target]
  rcases Nat.lt_or_eq_of_le short with short | carried
  · have bits : mantissa.log2 ≤ 52 := log2_le_of_lt short
    have still : (max ((mantissa.log2 : Int) + exponent - 52) (-1074) - exponent).toNat = 0 := by
      omega
    rw [still]
    refine ⟨mantissa, exponent, Nat.div_one _, add_zero _, ⟨pos, short, low, high.le, full⟩, rfl⟩
  · subst carried
    have one : (max (((2 ^ 53 : Nat).log2 : Int) + exponent - 52) (-1074) - exponent).toNat = 1 := by
      rw [Nat.log2_two_pow]
      omega
    rw [one]
    refine ⟨2 ^ 52, exponent + 1, rfl, rfl, ⟨by norm_num, by norm_num, by omega, by omega,
      Or.inl (le_refl _)⟩, ?_⟩
    rw [show (2 : Nat) ^ 53 = 2 ^ 52 * 2 ^ 1 from rfl, scaled_mul_pow]
    rfl

/-- What a mantissa and its exponent become when they are shifted to the exponent that a double
has: bits drop off below, and no more than 53 remain. -/
theorem shift_spec {mantissa : Nat} {exponent : Int} (accuracy : Accuracy)
    (fine : exponent ≤ Format.binary64.targetExponent (totalExponent mantissa exponent)) :
    ∃ kept raised,
      (shiftToTargetExponent Format.binary64 mantissa exponent accuracy).1.mantissa = kept ∧
      (shiftToTargetExponent Format.binary64 mantissa exponent accuracy).2 = raised ∧
      kept < 2 ^ 53 ∧ -1074 ≤ raised ∧ (2 ^ 52 ≤ kept ∨ raised = -1074) ∧
      scaled kept raised ≤ scaled mantissa exponent ∧
      scaled (mantissa + 1) exponent ≤ scaled (kept + 1) raised := by
  rw [targetExponent_eq] at fine
  simp only [shiftToTargetExponent, shiftToExponent, mantissa_shift,
    mantissa_ofMantissaAndAccuracy, targetExponent_eq mantissa exponent]
  obtain ⟨target, targetEq⟩ : ∃ target, target =
    max ((mantissa.log2 : Int) + exponent - 52) (-1074) := ⟨_, rfl⟩
  obtain ⟨count, countEq⟩ : ∃ count : Nat, target = exponent + count :=
    ⟨(target - exponent).toNat, by omega⟩
  have amount : (target - exponent).toNat = count := by omega
  rw [← targetEq, amount, ← countEq]
  have wide : mantissa.log2 + 1 ≤ 53 + count := by omega
  refine ⟨_, _, rfl, rfl, ?_, by omega, ?_, ?_, ?_⟩
  · refine (Nat.div_lt_iff_lt_mul (Nat.two_pow_pos count)).mpr ?_
    calc mantissa < 2 ^ (mantissa.log2 + 1) := Nat.lt_log2_self
      _ ≤ 2 ^ (53 + count) := Nat.pow_le_pow_right (by norm_num) wide
      _ = 2 ^ 53 * 2 ^ count := Nat.pow_add 2 _ _
  · by_cases lowest : target = -1074
    · exact Or.inr lowest
    · refine Or.inl ((Nat.le_div_iff_mul_le (Nat.two_pow_pos count)).mpr ?_)
      have bits : 52 + count = mantissa.log2 := by omega
      have nonzero : mantissa ≠ 0 := by
        rintro rfl
        rw [Nat.log2_zero] at bits
        omega
      calc 2 ^ 52 * 2 ^ count = 2 ^ mantissa.log2 := by rw [← Nat.pow_add, bits]
        _ ≤ mantissa := Nat.log2_self_le nonzero
  · rw [countEq, ← scaled_mul_pow]
    exact scaled_le_scaled _ (Nat.div_mul_le_self _ _)
  · rw [countEq, ← scaled_mul_pow]
    refine scaled_le_scaled _ (Nat.succ_le_of_lt ?_)
    have := Nat.lt_mul_div_succ mantissa (Nat.two_pow_pos count)
    rwa [Nat.mul_comm] at this

/-- The unit of a mantissa is within the gap around every number of at least its size. -/
theorem unit_le_gap {mantissa : Nat} {exponent : Int} {number : ℚ}
    (full : 2 ^ 52 ≤ mantissa ∨ exponent = -1074)
    (below : scaled mantissa exponent ≤ number) : 2 ^ exponent ≤ gap number := by
  have nonneg := (scaled_nonneg mantissa exponent).trans below
  have tiny := (two_zpow_pos (-1074)).le
  rw [gap]
  rcases full with full | rfl
  · have size : 2 ^ 52 * (2 : ℚ) ^ exponent ≤ number := by
      refine le_trans ?_ below
      refine mul_le_mul_of_nonneg_right ?_ (two_zpow_pos exponent).le
      exact_mod_cast full
    linarith
  · have share := div_nonneg nonneg (show (0 : ℚ) ≤ 2 ^ 52 by norm_num)
    linarith

theorem exponent_lt_of_small {mantissa : Nat} {exponent : Int} {number : ℚ}
    (full : 2 ^ 52 ≤ mantissa ∨ exponent = -1074)
    (below : scaled mantissa exponent ≤ number) (small : number < 2 ^ 200) : exponent < 971 := by
  rcases full with full | rfl
  · have unit : (2 : ℚ) ^ exponent ≤ scaled mantissa exponent := by
      refine le_mul_of_one_le_left (two_zpow_pos exponent).le ?_
      exact_mod_cast (Nat.one_le_two_pow.trans full)
    have bound : (2 : ℚ) ^ exponent < 2 ^ (200 : Int) := by
      rw [zpow_ofNat]
      exact (unit.trans below).trans_lt small
    have := (zpow_lt_zpow_iff_right₀ (by norm_num)).mp bound
    omega
  · norm_num

/-! ## Rounding -/

/-- Rounding what lies between two mantissas of one exponent stays within the gap of doubles
around it. -/
theorem reads_roundWithAccuracy {mantissa : Nat} {exponent : Int} (accuracy : Accuracy)
    {number : ℚ}
    (fine : exponent ≤ Format.binary64.targetExponent (totalExponent mantissa exponent))
    (below : scaled mantissa exponent ≤ number) (above : number ≤ scaled (mantissa + 1) exponent)
    (small : number < 2 ^ 200) :
    ∃ rounded, Reads (roundWithAccuracy Format.binary64 .positive mantissa exponent accuracy)
      rounded ∧ |rounded - number| ≤ gap number := by
  obtain ⟨kept, raised, keptEq, raisedEq, short, low, full, lower, upper⟩ := shift_spec accuracy fine
  rw [roundWithAccuracy]
  generalize shiftToTargetExponent Format.binary64 mantissa exponent accuracy = shifting at *
  obtain ⟨extended, middle⟩ := shifting
  simp only at keptEq raisedEq ⊢
  subst keptEq raisedEq
  -- The rounded mantissa is one of two neighbours, and the number lies between them.
  have atLeast := le_roundedMantissa extended
  have atMost := roundedMantissa_le extended
  generalize extended.roundedMantissa = rounded at *
  have unit := unit_le_gap full (lower.trans below)
  have near : |scaled rounded middle - number| ≤ gap number := by
    have up := scaled_le_scaled middle atLeast
    have down := scaled_le_scaled middle atMost
    have reach := above.trans upper
    rw [scaled_succ] at reach down
    rw [abs_le]
    constructor <;> linarith
  rcases Nat.eq_zero_or_pos rounded with rfl | pos
  · have none : (shiftToTargetExponent Format.binary64 0 middle .exact).1.mantissa = 0 :=
      (mantissa_shift _ _).trans (Nat.zero_div _)
    rw [dif_pos none]
    refine ⟨0, Reads.zero _, ?_⟩
    rwa [scaled, Nat.cast_zero, zero_mul] at near
  · obtain ⟨final, last, finalEq, lastEq, canonical, same⟩ :=
      settle_spec (atMost.trans short) low (exponent_lt_of_small full (lower.trans below) small)
        (full.imp_left fun full => full.trans atLeast) pos
    subst finalEq lastEq
    rw [dif_neg (Nat.ne_of_gt canonical.pos)]
    exact ⟨_, Reads.finite canonical, same ▸ near⟩

theorem decreaseExponent_eq (mantissa : Nat) (exponent target : Int) :
    decreaseExponent mantissa exponent target =
      (mantissa * 2 ^ (exponent - target).toNat, min exponent target) := by
  rw [decreaseExponent, Nat.shiftLeft_eq]
  exact congrArg (Prod.mk _) (by omega)

/-- A lower exponent leaves the number as it is. -/
theorem scaled_decrease (mantissa : Nat) (exponent target : Int) :
    scaled (mantissa * 2 ^ (exponent - target).toNat) (min exponent target) =
      scaled mantissa exponent := by
  rw [scaled_mul_pow]
  congr 1
  omega

theorem le_log2_mul {left right : Nat} (leftPos : 0 < left) (rightPos : 0 < right) :
    left.log2 + right.log2 ≤ (left * right).log2 := by
  refine (Nat.le_log2 (Nat.mul_pos leftPos rightPos).ne').mpr ?_
  rw [Nat.pow_add]
  exact Nat.mul_le_mul (Nat.log2_self_le leftPos.ne') (Nat.log2_self_le rightPos.ne')

theorem le_log2_div {bits left right : Nat} (rightPos : 0 < right)
    (enough : right.log2 + 1 + bits ≤ left.log2) : bits ≤ (left / right).log2 := by
  have leftPos : left ≠ 0 := by
    rintro rfl
    rw [Nat.log2_zero] at enough
    omega
  have full : 2 ^ bits ≤ left / right := by
    refine (Nat.le_div_iff_mul_le rightPos).mpr ?_
    calc 2 ^ bits * right ≤ 2 ^ bits * 2 ^ (right.log2 + 1) :=
          Nat.mul_le_mul_left _ Nat.lt_log2_self.le
      _ = 2 ^ (right.log2 + 1 + bits) := by rw [← Nat.pow_add, Nat.add_comm]
      _ ≤ 2 ^ left.log2 := Nat.pow_le_pow_right (by norm_num) enough
      _ ≤ left := Nat.log2_self_le leftPos
  have nonzero : left / right ≠ 0 := (Nat.lt_of_lt_of_le (Nat.two_pow_pos bits) full).ne'
  exact (Nat.le_log2 nonzero).mpr full

/-- Rounding a number stays within the gap of doubles around it. -/
theorem reads_round {mantissa : Nat} (exponent : Int) (pos : 0 < mantissa)
    (small : scaled mantissa exponent < 2 ^ 200) :
    ∃ rounded, Reads (UnpackedFloat.round Format.binary64 .positive mantissa exponent) rounded ∧
      |rounded - scaled mantissa exponent| ≤ gap (scaled mantissa exponent) := by
  rw [UnpackedFloat.round, decreaseExponent_eq]
  have same := scaled_decrease mantissa exponent
    (Format.binary64.targetExponent (totalExponent mantissa exponent))
  refine reads_roundWithAccuracy _ ?_ same.le ?_ small
  · have bits := le_log2_mul pos (Nat.two_pow_pos (exponent -
      Format.binary64.targetExponent (totalExponent mantissa exponent)).toNat)
    rw [Nat.log2_two_pow] at bits
    simp only [targetExponent_eq] at bits ⊢
    omega
  · exact same ▸ scaled_le_scaled _ (Nat.le_succ _)

theorem reads_normalize {mantissa : Nat} (exponent : Int) (pos : 0 < mantissa)
    (small : scaled mantissa exponent < 2 ^ 200) :
    ∃ rounded, Reads (UnpackedFloat.normalize Format.binary64 mantissa exponent .positive) rounded ∧
      |rounded - scaled mantissa exponent| ≤ gap (scaled mantissa exponent) := by
  have greater : compare (mantissa : Int) 0 = .gt := Int.compare_eq_gt.mpr (by omega)
  rw [UnpackedFloat.normalize]
  simp only [greater, Int.toNat_natCast]
  exact reads_round exponent pos small

/-! ## Operations -/

theorem Canonical.low_or_log2 (canonical : Canonical mantissa exponent) :
    exponent = -1074 ∨ 52 ≤ mantissa.log2 :=
  canonical.full.symm.imp_right (Nat.le_log2 canonical.pos.ne').mpr

/-- Some double lies within the gap of doubles around a number. -/
def Rounded (value : UnpackedFloat) (number : ℚ) : Prop :=
  ∃ rounded, Reads value rounded ∧ |rounded - number| ≤ gap number

theorem rounded_of_reads {value : UnpackedFloat} {number : ℚ} (reads : Reads value number) :
    Rounded value number :=
  ⟨number, reads, by rw [sub_self, abs_zero]; exact gap_nonneg reads.nonneg⟩

theorem rounded_zero {sign : Sign} {number : ℚ} (zero : number = 0) :
    Rounded (.zero sign) number :=
  zero ▸ rounded_of_reads (Reads.zero sign)

theorem Rounded.denotes {value : UnpackedFloat} {number : ℚ} (rounded : Rounded value number) :
    ∃ result, Denotes ⟨Float.Model.pack value⟩ result ∧ |result - number| ≤ gap number :=
  rounded.imp fun _ near => ⟨denotes_pack near.1, near.2⟩

variable {left right : Float} {x y : ℚ}

/-- A number of 64 bits as a double. -/
theorem denotes_toFloat (value : UInt64) :
    ∃ number, Denotes value.toFloat number ∧ |number - value.toNat| ≤ gap value.toNat := by
  have whole : scaled value.toNat 0 = value.toNat := by rw [scaled, zpow_zero, mul_one]
  have small : (value.toNat : ℚ) < 2 ^ 200 := by
    have : (value.toNat : ℚ) < 2 ^ 64 := by exact_mod_cast value.toNat_lt
    exact this.trans (by norm_num)
  suffices Rounded (UnpackedFloat.ofNat Format.binary64 value.toNat) value.toNat from this.denotes
  rw [UnpackedFloat.ofNat, UnpackedFloat.ofInt]
  rcases Nat.eq_zero_or_pos value.toNat with zero | pos
  · rw [zero]
    exact rounded_zero Nat.cast_zero
  · rw [← whole] at small ⊢
    exact reads_normalize 0 pos small

/-- A product stays within the gap of doubles around the product of the numbers. -/
theorem denotes_mul (first : Denotes left x) (second : Denotes right y)
    (small : x * y < 2 ^ 200) :
    ∃ product, Denotes (left * right) product ∧ |product - x * y| ≤ gap (x * y) := by
  suffices Rounded (UnpackedFloat.mul Format.binary64 left.toModel.unpack right.toModel.unpack)
    (x * y) from this.denotes
  rw [Denotes] at first second
  generalize left.toModel.unpack = left at *
  generalize right.toModel.unpack = right at *
  cases first with
  | zero => cases second <;> exact rounded_zero (zero_mul _)
  | @finite leftMantissa leftExponent leftForm =>
      cases second with
      | zero => exact rounded_zero (mul_zero _)
      | @finite rightMantissa rightExponent rightForm =>
          have same : scaled leftMantissa leftExponent * scaled rightMantissa rightExponent =
              scaled (leftMantissa * rightMantissa) (leftExponent + rightExponent) := by
            rw [scaled, scaled, scaled, zpow_add₀ two_ne_zero]
            push_cast
            ring
          rw [same] at small ⊢
          refine reads_roundWithAccuracy _ ?_ le_rfl (scaled_le_scaled _ (Nat.le_succ _)) small
          rw [targetExponent_eq]
          -- A factor of the lowest exponent may be short of bits.  The other factor then has 53 of
          -- its own, or both exponents are the lowest and no bit is missed.
          have bits := le_log2_mul leftForm.pos rightForm.pos
          have leftWide := leftForm.low_or_log2
          have rightWide := rightForm.low_or_log2
          have leftLow := leftForm.low
          have rightLow := rightForm.low
          omega

/-- A sum stays within the gap of doubles around the sum of the numbers. -/
theorem denotes_add (first : Denotes left x) (second : Denotes right y)
    (small : x + y < 2 ^ 200) :
    ∃ sum, Denotes (left + right) sum ∧ |sum - (x + y)| ≤ gap (x + y) := by
  suffices Rounded (UnpackedFloat.add Format.binary64 left.toModel.unpack right.toModel.unpack)
    (x + y) from this.denotes
  rw [Denotes] at first second
  generalize left.toModel.unpack = left at *
  generalize right.toModel.unpack = right at *
  cases first with
  | zero sign =>
      rw [zero_add] at small ⊢
      cases second with
      | zero sign' =>
          rw [UnpackedFloat.add]
          split <;> exact rounded_of_reads (Reads.zero _)
      | finite form => exact rounded_of_reads (Reads.finite form)
  | @finite leftMantissa leftExponent leftForm =>
      cases second with
      | zero =>
          rw [add_zero] at small ⊢
          exact rounded_of_reads (Reads.finite leftForm)
      | @finite rightMantissa rightExponent rightForm =>
          have leftSame := scaled_decrease leftMantissa leftExponent
            (min leftExponent rightExponent)
          have rightSame := scaled_decrease rightMantissa rightExponent
            (min leftExponent rightExponent)
          rw [min_eq_right (min_le_left _ _)] at leftSame
          rw [min_eq_right (min_le_right _ _)] at rightSame
          have pos : 0 < leftMantissa * 2 ^ (leftExponent - min leftExponent rightExponent).toNat :=
            Nat.mul_pos leftForm.pos (Nat.two_pow_pos _)
          rw [UnpackedFloat.add]
          simp only [decreaseExponent_eq, Sign.apply]
          generalize leftMantissa * 2 ^ (leftExponent - min leftExponent rightExponent).toNat =
            first at *
          generalize rightMantissa * 2 ^ (rightExponent - min leftExponent rightExponent).toNat =
            second at *
          have same : scaled leftMantissa leftExponent + scaled rightMantissa rightExponent =
              scaled (first + second) (min leftExponent rightExponent) := by
            rw [← leftSame, ← rightSame, scaled, scaled, scaled]
            push_cast
            ring
          rw [same] at small ⊢
          rw [← Int.natCast_add]
          exact reads_normalize _ (Nat.add_pos_left pos _) small

/-- A quotient of scaled mantissas, with the left one shifted so that the exponents agree. -/
theorem scaled_div {leftMantissa rightMantissa count : Nat}
    {leftExponent rightExponent target : Int}
    (shifted : leftExponent - rightExponent = target + count) :
    scaled leftMantissa leftExponent / scaled rightMantissa rightExponent =
      (leftMantissa * 2 ^ count : Nat) / rightMantissa * 2 ^ target := by
  have whole : leftExponent = rightExponent + target + count := by omega
  have unit := two_zpow_pos rightExponent
  rw [scaled, scaled, whole, zpow_add₀ two_ne_zero, zpow_add₀ two_ne_zero, zpow_natCast]
  push_cast
  field_simp

/-- A quotient of mantissas lies between the whole quotient and the next number. -/
theorem scaled_quotient (left : Nat) {right : Nat} (exponent : Int) (rightPos : 0 < right) :
    scaled (left / right) exponent ≤ (left / right : ℚ) * 2 ^ exponent ∧
      (left / right : ℚ) * 2 ^ exponent ≤ scaled (left / right + 1) exponent := by
  have unit := (two_zpow_pos exponent).le
  have divisor : (0 : ℚ) < right := by exact_mod_cast rightPos
  have next : (left : ℚ) ≤ (left / right + 1 : Nat) * right := by
    have := (Nat.lt_mul_div_succ left rightPos).le
    rw [Nat.mul_comm] at this
    exact_mod_cast this
  exact ⟨mul_le_mul_of_nonneg_right Nat.cast_div_le unit,
    mul_le_mul_of_nonneg_right ((div_le_iff₀ divisor).mpr next) unit⟩

/-- What division computes before it rounds: a mantissa just below the quotient, at an exponent
that leaves rounding enough bits. -/
theorem divCore_spec {leftMantissa rightMantissa : Nat} (leftExponent rightExponent : Int)
    (leftPos : 0 < leftMantissa) (rightPos : 0 < rightMantissa) :
    ∃ mantissa exponent accuracy,
      divCore Format.binary64 leftMantissa leftExponent rightMantissa rightExponent =
        (mantissa, exponent, accuracy) ∧
      exponent ≤ Format.binary64.targetExponent (totalExponent mantissa exponent) ∧
      scaled mantissa exponent ≤
        scaled leftMantissa leftExponent / scaled rightMantissa rightExponent ∧
      scaled leftMantissa leftExponent / scaled rightMantissa rightExponent ≤
        scaled (mantissa + 1) exponent := by
  have width : (Format.binary64.mantissaBits : Int) = 53 := rfl
  have lowest : Format.binary64.minExponent = -1074 := rfl
  obtain ⟨target, targetEq⟩ : ∃ target, target = min (leftExponent - rightExponent)
    (Format.binary64.targetExponent (totalExponent leftMantissa leftExponent -
      totalExponent rightMantissa rightExponent)) := ⟨_, rfl⟩
  obtain ⟨count, countEq⟩ : ∃ count : Nat, leftExponent - rightExponent = target + count :=
    ⟨(leftExponent - rightExponent - target).toNat, by omega⟩
  have amount : (leftExponent - rightExponent - target).toNat = count := by omega
  simp only [divCore, ← targetEq, amount, Nat.shiftLeft_eq]
  refine ⟨_, _, _, rfl, ?_, ?_⟩
  · -- The shift was chosen so that the quotient has 53 bits, but for the lowest exponent.
    rw [targetExponent_eq]
    simp only [Format.targetExponent, totalExponent, width, lowest] at targetEq
    by_cases low : target ≤ -1074
    · omega
    · have wide := le_log2_mul leftPos (Nat.two_pow_pos count)
      rw [Nat.log2_two_pow] at wide
      have bits : 52 ≤ (leftMantissa * 2 ^ count / rightMantissa).log2 :=
        le_log2_div rightPos (by omega)
      omega
  · rw [scaled_div countEq]
    exact scaled_quotient _ target rightPos

/-- A quotient stays within the gap of doubles around the quotient of the numbers. -/
theorem denotes_div (first : Denotes left x) (second : Denotes right y) (nonzero : y ≠ 0)
    (small : x / y < 2 ^ 200) :
    ∃ quotient, Denotes (left / right) quotient ∧ |quotient - x / y| ≤ gap (x / y) := by
  suffices Rounded (UnpackedFloat.div Format.binary64 left.toModel.unpack right.toModel.unpack)
    (x / y) from this.denotes
  rw [Denotes] at first second
  generalize left.toModel.unpack = left at *
  generalize right.toModel.unpack = right at *
  cases second with
  | zero => exact absurd rfl nonzero
  | @finite rightMantissa rightExponent rightForm =>
      cases first with
      | zero => exact rounded_zero (zero_div _)
      | @finite leftMantissa leftExponent leftForm =>
          obtain ⟨_, _, _, core, fine, below, above⟩ :=
            divCore_spec leftExponent rightExponent leftForm.pos rightForm.pos
          rw [UnpackedFloat.div]
          simp only [core]
          exact reads_roundWithAccuracy _ fine below above small

end Scribe.Decimal
