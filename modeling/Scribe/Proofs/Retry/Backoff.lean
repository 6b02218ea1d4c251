import Scribe.Proofs.Time.Seconds
import Scribe.Proofs.Work.Records

/-!
# Delays between attempts

The product, the power of two and the exponent of a delay are all kept within bounds of their
own.  Together they come to one bound: a delay is the doubled first delay in numbers of any
size, capped at the limit.  A share of a delay goes through doubles and comes back as a span,
which is off by less than a nanosecond and a part in two to the 51st; it always fits.
-/

namespace Scribe.Backoff

open Scribe.Decimal
open Scribe.Text
open Scribe.Time

/-! ## Doubling -/

/-- The delays of a backoff: they double from a first one up to a last one. -/
structure Doubles (backoff : Backoff) (first last : Span) : Prop where
  zero : backoff.delay 0 = first
  one : backoff.delay 1 = first
  double : ∀ attempt, 1 ≤ attempt → attempt ≤ 63 →
    (backoff.delay (attempt + 1)).nanos = min last.nanos (2 * (backoff.delay attempt).nanos)
  constant : ∀ attempt, 64 ≤ attempt → backoff.delay attempt = backoff.delay 64
  monotone : ∀ early late, early ≤ late → backoff.delay early ≤ backoff.delay late
  bounded : ∀ attempt, first ≤ backoff.delay attempt ∧ backoff.delay attempt ≤ last

variable {base max : Nat}

theorem wordMillis_ofMillis (fits : base ≤ max64) : wordMillis (Span.ofMillis base) = base := by
  have whole : (Span.ofMillis base).millis = base := Nat.mul_div_cancel base (by decide)
  rw [wordMillis, whole]
  exact Nat.mod_eq_of_lt (Nat.lt_of_le_of_lt fits (by decide))

theorem max_ofMillis (base max : Nat) :
    (ofMillis base max).max = Span.ofMillis (Max.max max base) :=
  congrArg Span.mk (Nat.mul_max_mul_right max base Span.perMilli)

/-- The bounds of the product, of the power and of the exponent come to one. -/
theorem delay_ofMillis (baseFits : base ≤ max64) (maxFits : max ≤ max64) (attempt : Nat) :
    (ofMillis base max).delay attempt =
      Span.ofMillis (min (base * 2 ^ min (attempt - 1) 63) (Max.max max base)) := by
  have limitFits : Max.max max base ≤ max64 := Nat.max_le.mpr ⟨maxFits, baseFits⟩
  have power : saturatingPow (min (attempt - 1) 63) = 2 ^ min (attempt - 1) 63 := by
    refine Nat.min_eq_left ?_
    calc 2 ^ min (attempt - 1) 63 ≤ 2 ^ 63 :=
          Nat.pow_le_pow_right (by decide) (Nat.min_le_right _ _)
      _ ≤ max64 := by decide
  have first : (ofMillis base max).base = Span.ofMillis base := rfl
  simp only [delay, first, max_ofMillis, wordMillis_ofMillis baseFits,
    wordMillis_ofMillis limitFits, saturatingMul, power]
  congr 1
  omega

theorem doubles_ofMillis (baseFits : base ≤ max64) (maxFits : max ≤ max64) :
    (ofMillis base max).Doubles (Span.ofMillis base) (Span.ofMillis (Max.max max base)) := by
  have closed := delay_ofMillis baseFits maxFits
  have first : min (base * 2 ^ 0) (Max.max max base) = base := by omega
  constructor
  case zero => exact (closed 0).trans (congrArg Span.ofMillis first)
  case one => exact (closed 1).trans (congrArg Span.ofMillis first)
  case double =>
    intro attempt positive few
    have here : min (attempt - 1) 63 = attempt - 1 := by omega
    have next : min (attempt + 1 - 1) 63 = attempt - 1 + 1 := by omega
    rw [closed, closed, here, next]
    have twice : base * 2 ^ (attempt - 1 + 1) = 2 * (base * 2 ^ (attempt - 1)) := by
      rw [Nat.pow_succ]
      ring
    calc min (base * 2 ^ (attempt - 1 + 1)) (Max.max max base) * Span.perMilli
        = min (Max.max max base) (2 * min (base * 2 ^ (attempt - 1)) (Max.max max base)) *
            Span.perMilli := congrArg (· * Span.perMilli) (by omega)
      _ = min (Max.max max base * Span.perMilli)
            (2 * min (base * 2 ^ (attempt - 1)) (Max.max max base) * Span.perMilli) :=
          (Nat.mul_min_mul_right _ _ _).symm
      _ = min (Max.max max base * Span.perMilli)
            (2 * (min (base * 2 ^ (attempt - 1)) (Max.max max base) * Span.perMilli)) := by
          rw [Nat.mul_assoc]
  case constant =>
    intro attempt many
    have capped : min (attempt - 1) 63 = min (64 - 1) 63 := by omega
    rw [closed, closed, capped]
  case monotone =>
    intro early late before
    rw [closed, closed]
    have power : 2 ^ min (early - 1) 63 ≤ 2 ^ min (late - 1) 63 :=
      Nat.pow_le_pow_right (by decide) (by omega)
    have product := Nat.mul_le_mul_left base power
    exact Nat.mul_le_mul_right _ (by omega)
  case bounded =>
    intro attempt
    rw [closed]
    have once : base * 1 ≤ base * 2 ^ min (attempt - 1) 63 :=
      Nat.mul_le_mul_left base Nat.one_le_two_pow
    exact ⟨Nat.mul_le_mul_right _ (by omega), Nat.mul_le_mul_right _ (by omega)⟩

/-! ## Shares -/

/-- A delay with a share of itself: the share has a span of its own, which is the product but
for rounding, the sum lies between the delay and six fifths of it but for rounding, and it is
no longer than a span can be. -/
structure Spreads (delay : Span) (jitter : Jitter) : Prop where
  added : ∃ extra, Span.ofFloat (share delay jitter) = .ok extra ∧
    (spread delay jitter).nanos = delay.nanos + extra.nanos
  rounded : ∃ number, Denotes jitter.share number ∧
    |((spread delay jitter).nanos : ℚ) - (delay.nanos + number * delay.nanos)| ≤
      1 + (delay.nanos : ℚ) / 2 ^ 51
  above : delay ≤ spread delay jitter
  below : ((spread delay jitter).nanos : ℚ) ≤
    6 / 5 * delay.nanos + 1 + (delay.nanos : ℚ) / 2 ^ 50
  fits : spread delay jitter ≤ Span.greatest

/-- The share of a jitter is a number, and one fifth up to the rounding of one fifth. -/
theorem denotes_share (jitter : Jitter) :
    ∃ number, Denotes jitter.share number ∧ 0 ≤ number ∧ number ≤ 1 / 5 + 1 / 2 ^ 55 := by
  have form : Canonical 7205759403792794 (-55) :=
    ⟨by decide, by decide, by decide, by decide, Or.inl (by decide)⟩
  have fifth : Denotes 0.2 (scaled 7205759403792794 (-55)) := denotes_of_parts form rfl
  obtain ⟨number, denotes, bounded⟩ := denotes_of_le jitter.nonneg jitter.bounded fifth
  refine ⟨number, denotes, denotes.nonneg, bounded.trans ?_⟩
  norm_num [scaled]

theorem share_near {delay : Span} {jitter : Jitter} {number : ℚ} (few : delay.seconds < 2 ^ 64)
    (denotes : Denotes jitter.share number) (bounded : number ≤ 1 / 4) :
    ∃ product, Denotes (share delay jitter) product ∧
      |product - number * delay.inSeconds| ≤ delay.inSeconds / 2 ^ 51 + 1 / 2 ^ 98 := by
  have nonneg := denotes.nonneg
  have size := delay.inSeconds_nonneg
  obtain ⟨seconds, secondsDenotes, secondsNear⟩ := denotes_toSeconds few
  have secondsNonneg := secondsDenotes.nonneg
  have top : delay.inSeconds ≤ 2 ^ 64 + 1 := by
    have whole : (delay.seconds : ℚ) ≤ 2 ^ 64 := by exact_mod_cast few.le
    have part : (delay.subsecond : ℚ) ≤ 1000000000 := by
      exact_mod_cast (Nat.mod_lt delay.nanos (by decide)).le
    rw [delay.inSeconds_eq]
    linarith
  -- The error of the seconds, scaled down by the share.
  have scaledNear : |number * seconds - number * delay.inSeconds| ≤
      1 / 4 * (delay.inSeconds / 2 ^ 50 + 1 / 2 ^ 97) := by
    rw [← mul_sub, abs_mul, abs_of_nonneg nonneg]
    exact mul_le_mul bounded secondsNear (abs_nonneg _) (by norm_num)
  have quarter : number * seconds ≤ 1 / 4 * seconds :=
    mul_le_mul_of_nonneg_right bounded secondsNonneg
  rw [abs_le] at secondsNear scaledNear
  obtain ⟨product, productDenotes, productNear⟩ :=
    denotes_mul denotes secondsDenotes (by linarith)
  have productNear := productNear.trans (gap_le _)
  refine ⟨product, productDenotes, ?_⟩
  rw [abs_le] at productNear ⊢
  constructor <;> linarith

theorem spreads {delay : Span} (short : delay.nanos ≤ max64 * Span.perMilli) (jitter : Jitter) :
    Spreads delay jitter := by
  have few : delay.seconds < 2 ^ 64 :=
    Nat.lt_of_le_of_lt (Nat.div_le_div_right short) (by decide)
  have size : (delay.nanos : ℚ) ≤ 2 ^ 64 * 1000000 := by
    have millis : max64 * Span.perMilli ≤ 2 ^ 64 * 1000000 := by decide
    exact_mod_cast short.trans millis
  have delayNonneg : (0 : ℚ) ≤ delay.nanos := Nat.cast_nonneg _
  obtain ⟨number, shareDenotes, nonneg, bounded⟩ := denotes_share jitter
  obtain ⟨product, productDenotes, productNear⟩ :=
    share_near few shareDenotes (by linarith)
  have part : number * delay.nanos ≤ (1 / 5 + 1 / 2 ^ 55) * delay.nanos :=
    mul_le_mul_of_nonneg_right bounded delayNonneg
  rw [Span.inSeconds, ← mul_div_assoc, abs_le] at productNear
  obtain ⟨extra, converted, extraNear, -⟩ := ofFloat_of_lt productDenotes (by linarith)
  have whole : spread delay jitter = ⟨delay.nanos + extra.nanos⟩ := by
    rw [spread, converted]
  have near : |(extra.nanos : ℚ) - number * delay.nanos| ≤ 1 + (delay.nanos : ℚ) / 2 ^ 51 := by
    rw [abs_le] at extraNear ⊢
    constructor <;> linarith
  have below : ((delay.nanos + extra.nanos : Nat) : ℚ) ≤
      6 / 5 * delay.nanos + 1 + (delay.nanos : ℚ) / 2 ^ 50 := by
    rw [abs_le] at near
    push_cast
    linarith
  constructor
  case added => exact ⟨extra, converted, by rw [whole]⟩
  case rounded =>
    refine ⟨number, shareDenotes, ?_⟩
    rw [whole]
    push_cast
    rwa [add_sub_add_left_eq_sub]
  case above =>
    rw [whole]
    exact Nat.le_add_right _ _
  case below => rwa [whole]
  case fits =>
    have top : ((Span.greatest.nanos : Nat) : ℚ) = 2 ^ 64 * 1000000000 - 1 := by
      norm_num [Span.greatest, Span.perSecond]
    have bounded : ((delay.nanos + extra.nanos : Nat) : ℚ) ≤ Span.greatest.nanos := by
      rw [top]
      linarith
    rw [whole]
    exact_mod_cast bounded

end Scribe.Backoff

namespace Scribe.RetryPolicy

open Scribe.Delivery
open Scribe.Dialogue
open Scribe.Text
open Scribe.Time
open Scribe.Work

/-! ## Waiting -/

/-- The wait that an exchange asks for. -/
def wait? : Exchange → Option Span
  | ⟨.sleep span, _⟩ => some span
  | _ => none

/-- The waits of a course, in order. -/
def waits (exchanges : List Exchange) : List Span := exchanges.filterMap wait?

/-- A share is drawn, a delay is waited for with that share, and then a record is sent; nothing
else is waited for or sent. -/
def WaitsFirst (delay : Span) (record : Broker.Record) (exchanges : List Exchange) : Prop :=
  ∃ jitter answer rest,
    exchanges = ⟨.drawJitter, jitter⟩ :: ⟨.sleep (Backoff.spread delay jitter), ()⟩ ::
      ⟨.send record, answer⟩ :: rest ∧
    requested rest = [] ∧ waits rest = []

theorem waitsFirst_of_handle {policy : RetryPolicy} {message : Broker.Message} {stage : String}
    {failure : Failure} {payload : Option Json} {exchanges : List Exchange}
    {disposition : Disposition} (again : policy.retries failure message.attempt = true)
    (course : Course (policy.handle message stage failure payload) exchanges disposition) :
    WaitsFirst (policy.backoff.delay (message.attempt + 1))
      (policy.retryRecord message (keyOf message payload) (message.attempt + 1)) exchanges := by
  simp only [handle, again, if_true] at course
  cases retried_of_course course with
  | unpublished jitter published =>
      cases published with
      | refused error => exact ⟨jitter, _, _, rfl, rfl, rfl⟩
      | undelivered error => exact ⟨jitter, _, _, rfl, rfl, rfl⟩
  | published jitter => exact ⟨jitter, _, _, rfl, rfl, rfl⟩

/-- The delays of a backoff of any number of milliseconds in 64 bits double exactly, every share
of them fits, and a policy waits that long before it sends a copy. -/
theorem backs_off {base max : Nat} (baseFits : base ≤ max64) (maxFits : max ≤ max64) :
    (Backoff.ofMillis base max).Doubles (Span.ofMillis base) (Span.ofMillis (Max.max max base)) ∧
    (∀ attempt jitter, Backoff.Spreads ((Backoff.ofMillis base max).delay attempt) jitter) ∧
    ∀ (policy : RetryPolicy) (message : Broker.Message) (stage : String) (failure : Failure)
      (payload : Option Json) (exchanges : List Exchange) (disposition : Disposition),
      policy.backoff = Backoff.ofMillis base max →
      policy.retries failure message.attempt = true →
      Course (policy.handle message stage failure payload) exchanges disposition →
      WaitsFirst ((Backoff.ofMillis base max).delay (message.attempt + 1))
        (policy.retryRecord message (keyOf message payload) (message.attempt + 1)) exchanges := by
  have doubles := Backoff.doubles_ofMillis baseFits maxFits
  refine ⟨doubles, ?_, ?_⟩
  · intro attempt jitter
    have limit : Max.max max base ≤ max64 := Nat.max_le.mpr ⟨maxFits, baseFits⟩
    have short := (doubles.bounded attempt).2.trans (Nat.mul_le_mul_right _ limit)
    exact Backoff.spreads short jitter
  · intro policy message stage failure payload exchanges disposition chosen again course
    rw [← chosen]
    exact waitsFirst_of_handle again course

/-- Half of all that 64 bits hold doubles once, into the limit, and the second attempt waits
that long. -/
theorem backs_off_at_limit :
    let base := 0x8000000000000000
    let policy : RetryPolicy := { backoff := Backoff.ofMillis base max64 }
    let message : Broker.Message := ⟨"stt.jobs", 0, 7, none, .empty, [("attempt", "1")], "7-0"⟩
    let failure : Failure := .of .downloadTimeout ""
    let once := (policy.handle message "DOWNLOAD" failure none).follow (obliging (.ok ()))
    base ≤ max64 ∧ (policy.backoff.delay 2).nanos = (Span.ofMillis max64).nanos ∧
      Backoff.Spreads (policy.backoff.delay 2) .greatest ∧
      policy.retries failure message.attempt = true ∧
      WaitsFirst (policy.backoff.delay 2) (policy.retryRecord message none 2) once.1 := by
  intro base policy message failure once
  have fits : base ≤ max64 := by decide
  obtain ⟨doubles, spreads, waits⟩ := backs_off fits (le_refl max64)
  have limit : (policy.backoff.delay 2).nanos = (Span.ofMillis max64).nanos := by
    have first : (policy.backoff.delay 1).nanos = (Span.ofMillis base).nanos :=
      congrArg Span.nanos doubles.one
    have second := doubles.double 1 (by decide) (by decide)
    rw [first] at second
    exact second.trans (by decide)
  have again : policy.retries failure message.attempt = true := by decide
  have waited := waits policy message "DOWNLOAD" failure none once.1 once.2 rfl again
    (course_follow (obliging (.ok ())) _)
  have tried : message.attempt = 1 := by decide
  rw [tried] at waited
  exact ⟨fits, limit, spreads 2 .greatest, again, waited⟩

end Scribe.RetryPolicy
