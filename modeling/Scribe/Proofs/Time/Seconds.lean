import Scribe.Proofs.Decimal.Rounding
import Scribe.Time.Seconds

/-!
# Seconds and spans

A double of seconds below two to the 64th becomes a span within half a nanosecond, and a span
becomes a double of seconds that is off by a few parts in two to the 52nd.
-/

namespace Scribe.Time

open Scribe.Decimal

/-! ## From seconds to spans -/

/-- A rounded quotient is off by a half at most. -/
theorem roundEven_near (num : Nat) {den : Nat} (pos : 0 < den) :
    |(roundEven num den : ℚ) - num / den| ≤ 1 / 2 := by
  have divisor : (0 : ℚ) < den := by exact_mod_cast pos
  have parts : (num : ℚ) = den * (num / den : Nat) + (num % den : Nat) := by
    exact_mod_cast (Nat.div_add_mod num den).symm
  have exact' : (num : ℚ) / den = (num / den : Nat) + (num % den : Nat) / den := by
    rw [parts]
    field_simp
  rw [exact', roundEven, abs_le]
  split
  next down =>
    have low : 2 * (num % den) ≤ den := by omega
    have share : ((num % den : Nat) : ℚ) / den ≤ 1 / 2 := by
      rw [div_le_div_iff₀ divisor two_pos]
      exact_mod_cast (by omega)
    have nonneg : (0 : ℚ) ≤ (num % den : Nat) / den := by positivity
    constructor <;> linarith
  next up =>
    have high : den ≤ 2 * (num % den) := by omega
    have below := Nat.mod_lt num pos
    have share : 1 / 2 ≤ ((num % den : Nat) : ℚ) / den := by
      rw [div_le_div_iff₀ two_pos divisor]
      exact_mod_cast (by omega)
    have proper : ((num % den : Nat) : ℚ) / den ≤ 1 := by
      rw [div_le_one divisor]
      exact_mod_cast below.le
    push_cast
    constructor <;> linarith

theorem scaled_of_neg {mantissa : Nat} {exponent : Int} (negative : exponent < 0) :
    scaled mantissa exponent = mantissa / (2 ^ exponent.natAbs : Nat) := by
  have power : exponent = -(exponent.natAbs : Int) := by omega
  rw [scaled, power, zpow_neg, zpow_natCast, Int.natAbs_neg, Int.natAbs_natCast, div_eq_mul_inv]
  push_cast
  rfl

theorem scaled_of_nonneg {mantissa : Nat} {exponent : Int} (nonneg : ¬exponent < 0) :
    scaled mantissa exponent = (mantissa * 2 ^ exponent.natAbs : Nat) := by
  have power : exponent = (exponent.natAbs : Int) := by omega
  rw [scaled, power, zpow_natCast, Int.natAbs_natCast]
  push_cast
  rfl

theorem nanosOf_near (seconds : Binary) :
    |(nanosOf seconds : ℚ) - scaled seconds.mantissa seconds.exponent * 1000000000| ≤ 1 / 2 := by
  have second : ((Span.perSecond : Nat) : ℚ) = 1000000000 := rfl
  rw [nanosOf]
  split
  next negative =>
    have near := roundEven_near (seconds.mantissa * Span.perSecond)
      (Nat.two_pow_pos seconds.exponent.natAbs)
    rw [scaled_of_neg negative, div_mul_eq_mul_div, ← second]
    exact_mod_cast near
  next nonneg =>
    have same : ((seconds.mantissa * Span.perSecond * Nat.pow 2 seconds.exponent.natAbs : Nat) : ℚ) =
        (seconds.mantissa * 2 ^ seconds.exponent.natAbs : Nat) * 1000000000 := by
      rw [← second]
      exact_mod_cast Nat.mul_right_comm _ _ _
    rw [scaled_of_nonneg nonneg, same, sub_self, abs_zero]
    norm_num

/-- No double below two to the 64th comes so close to it that rounding would get there. -/
theorem nanosOf_le_greatest {seconds : Binary} (short : seconds.mantissa < 2 ^ 53)
    (small : scaled seconds.mantissa seconds.exponent < 2 ^ 64) :
    nanosOf seconds ≤ Span.greatest.nanos := by
  have near := (abs_le.mp (nanosOf_near seconds)).2
  have top : ((Span.greatest.nanos : Nat) : ℚ) = 2 ^ 64 * 1000000000 - 1 := by
    norm_num [Span.greatest, Span.perSecond]
  suffices (nanosOf seconds : ℚ) ≤ Span.greatest.nanos from by exact_mod_cast this
  by_cases negative : seconds.exponent < 0
  · have half : scaled seconds.mantissa seconds.exponent ≤ 2 ^ 53 := by
      rw [scaled_of_neg negative]
      refine (div_le_self (Nat.cast_nonneg _) ?_).trans (by exact_mod_cast short.le)
      exact_mod_cast Nat.one_le_two_pow
    rw [top]
    linarith
  · rw [scaled_of_nonneg negative] at near small
    have whole : seconds.mantissa * 2 ^ seconds.exponent.natAbs + 1 ≤ 2 ^ 64 := by
      exact_mod_cast small
    have whole' : ((seconds.mantissa * 2 ^ seconds.exponent.natAbs : Nat) : ℚ) + 1 ≤ 2 ^ 64 := by
      exact_mod_cast whole
    rw [top]
    linarith

theorem greatest_lt_nanosOf {seconds : Binary}
    (large : 2 ^ 64 ≤ scaled seconds.mantissa seconds.exponent) :
    Span.greatest.nanos < nanosOf seconds := by
  have near := (abs_le.mp (nanosOf_near seconds)).1
  have top : ((Span.greatest.nanos : Nat) : ℚ) = 2 ^ 64 * 1000000000 - 1 := by
    norm_num [Span.greatest, Span.perSecond]
  suffices ((Span.greatest.nanos : Nat) : ℚ) < nanosOf seconds from by exact_mod_cast this
  rw [top]
  linarith

variable {seconds : Float} {number : ℚ}

theorem not_neg_of_denotes (denotes : Denotes seconds number) : ¬seconds < 0.0 := by
  have zero : Denotes 0.0 0 := Reads.zero .positive
  rw [lt_iff denotes zero]
  exact not_lt.mpr denotes.nonneg

theorem special_of_denotes (denotes : Denotes seconds number) :
    (seconds.isNaN || seconds.isInf) = false := by
  have unpacked : (seconds.isNaN || seconds.isInf) =
    (seconds.toModel.unpack.isNaN || seconds.toModel.unpack.isInf) := rfl
  rw [Denotes] at denotes
  rw [unpacked]
  generalize seconds.toModel.unpack = parts at denotes ⊢
  cases denotes <;> rfl

theorem mantissa_ofBits_lt (bits : Nat) : (Binary.ofBits bits).mantissa < 2 ^ 53 := by
  simp only [Binary.ofBits]
  split <;> simp only <;> omega

/-- What stands for less than two to the 64th seconds becomes the nearest span. -/
theorem ofFloat_of_lt (denotes : Denotes seconds number) (small : number < 2 ^ 64) :
    ∃ span, Span.ofFloat seconds = .ok span ∧ |(span.nanos : ℚ) - number * 1000000000| ≤ 1 / 2 ∧
      span ≤ Span.greatest := by
  have value := scaled_ofBits denotes
  have fits := nanosOf_le_greatest (mantissa_ofBits_lt seconds.toBits.toNat) (value ▸ small)
  refine ⟨⟨nanosOf (Binary.ofBits seconds.toBits.toNat)⟩, ?_, value ▸ nanosOf_near _, fits⟩
  rw [Span.ofFloat, if_neg (not_neg_of_denotes denotes), special_of_denotes denotes]
  simp only [Bool.false_eq_true, if_false, Nat.not_lt.mpr fits]

/-- What stands for more has no span. -/
theorem ofFloat_of_le (denotes : Denotes seconds number) (large : 2 ^ 64 ≤ number) :
    Span.ofFloat seconds = .error .tooLarge := by
  have value := scaled_ofBits denotes
  have beyond := greatest_lt_nanosOf (value ▸ large)
  rw [Span.ofFloat, if_neg (not_neg_of_denotes denotes), special_of_denotes denotes]
  simp only [Bool.false_eq_true, if_false, beyond, if_true]

/-- Only what stands for a number has a span: what is negative, infinite or no number has none. -/
theorem denotes_of_ofFloat {span : Span} (converted : Span.ofFloat seconds = .ok span) :
    ∃ number, Denotes seconds number := by
  have sign : seconds < 0.0 ↔
      seconds.toModel.unpack.lt (.zero .positive) = true := lt_iff_unpack seconds 0.0
  have special : (seconds.isNaN || seconds.isInf) =
    (seconds.toModel.unpack.isNaN || seconds.toModel.unpack.isInf) := rfl
  rw [Span.ofFloat] at converted
  split at converted
  · cases converted
  next nonneg =>
    split at converted
    · cases converted
    next plain =>
      rw [sign] at nonneg
      rw [special] at plain
      simp only [Denotes]
      cases unpacked : seconds.toModel.unpack with
      | notANumber =>
          rw [unpacked] at plain
          exact absurd rfl plain
      | infinity =>
          rw [unpacked] at plain
          exact absurd rfl plain
      | zero sign => exact ⟨0, Reads.zero sign⟩
      | finite sign mantissa exponent pos =>
          cases sign with
          | negative =>
              rw [unpacked] at nonneg
              exact absurd rfl nonneg
          | positive => exact ⟨_, Reads.finite (canonical_of_unpack unpacked)⟩

/-- The doubles that have a span are those that stand for less than two to the 64th. -/
theorem ofFloat_ok_iff (seconds : Float) :
    (∃ span, Span.ofFloat seconds = .ok span) ↔
      ∃ number, Denotes seconds number ∧ number < 2 ^ 64 := by
  constructor
  · rintro ⟨span, converted⟩
    obtain ⟨number, denotes⟩ := denotes_of_ofFloat converted
    refine ⟨number, denotes, ?_⟩
    by_contra large
    rw [ofFloat_of_le denotes (not_lt.mp large)] at converted
    cases converted
  · rintro ⟨number, denotes, small⟩
    obtain ⟨span, converted, -⟩ := ofFloat_of_lt denotes small
    exact ⟨span, converted⟩

/-! ## From spans to seconds -/

theorem denotes_billion : Denotes 1000000000.0 1000000000 := by
  have form : Canonical 8388608000000000 (-23) :=
    ⟨by decide, by decide, by decide, by decide, Or.inl (by decide)⟩
  have value : scaled 8388608000000000 (-23) = 1000000000 := by norm_num [scaled]
  exact value ▸ denotes_of_parts form rfl

/-- The seconds of a span, as a number. -/
def Span.inSeconds (span : Span) : ℚ := span.nanos / 1000000000

theorem Span.inSeconds_nonneg (span : Span) : 0 ≤ span.inSeconds :=
  div_nonneg (Nat.cast_nonneg _) (by norm_num)

theorem Span.inSeconds_eq (span : Span) :
    span.inSeconds = span.seconds + (span.subsecond : ℚ) / 1000000000 := by
  have parts : (span.nanos : ℚ) = 1000000000 * span.seconds + span.subsecond := by
    exact_mod_cast (Nat.div_add_mod span.nanos perSecond).symm
  rw [inSeconds, parts]
  ring

theorem denotes_word {value : Nat} (fits : value < 2 ^ 64) :
    ∃ number, Denotes (UInt64.ofNat value).toFloat number ∧
      |number - value| ≤ (value : ℚ) / 2 ^ 52 + 1 / 2 ^ 100 := by
  obtain ⟨number, denotes, near⟩ := denotes_toFloat (UInt64.ofNat value)
  rw [UInt64.toNat_ofNat_of_lt' fits] at near
  exact ⟨number, denotes, near.trans (gap_le _)⟩

/-- A span as a double of seconds is off by a few parts in two to the 52nd. -/
theorem denotes_toSeconds {span : Span} (few : span.seconds < 2 ^ 64) :
    ∃ number, Denotes span.toSeconds number ∧
      |number - span.inSeconds| ≤ span.inSeconds / 2 ^ 50 + 1 / 2 ^ 97 := by
  have below : span.subsecond < 1000000000 := Nat.mod_lt _ (by decide)
  obtain ⟨whole, wholeDenotes, wholeNear⟩ := denotes_word few
  obtain ⟨part, partDenotes, partNear⟩ := denotes_word (below.trans (by norm_num))
  have whole_le : (span.seconds : ℚ) ≤ 2 ^ 64 := by exact_mod_cast few.le
  have part_le : (span.subsecond : ℚ) ≤ 1000000000 := by exact_mod_cast below.le
  have whole_nonneg : (0 : ℚ) ≤ span.seconds := Nat.cast_nonneg _
  have part_nonneg : (0 : ℚ) ≤ span.subsecond := Nat.cast_nonneg _
  rw [abs_le] at wholeNear partNear
  obtain ⟨quotient, quotientDenotes, quotientNear⟩ :=
    denotes_div partDenotes denotes_billion (by norm_num) (by linarith)
  have quotientNear := quotientNear.trans (gap_le _)
  rw [abs_le] at quotientNear
  obtain ⟨sum, sumDenotes, sumNear⟩ :=
    denotes_add wholeDenotes quotientDenotes (by linarith)
  have sumNear := sumNear.trans (gap_le _)
  refine ⟨sum, sumDenotes, ?_⟩
  rw [span.inSeconds_eq]
  rw [abs_le] at sumNear ⊢
  constructor <;> linarith

end Scribe.Time
