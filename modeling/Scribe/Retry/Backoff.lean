import Scribe.Text.Numeral
import Scribe.Time.Seconds

/-!
# Backoff

The delay before another attempt doubles from attempt to attempt, up to a limit. A
part of up to one fifth is added at random, so that retries spread out.
-/

namespace Scribe

open Scribe.Text

/-- A first delay and a limit that is not below it. -/
structure Backoff where
  base : Time.Span
  max : Time.Span
  base_le_max : base.nanos ≤ max.nanos

/-- A share of a delay, at most one fifth. -/
structure Jitter where
  share : Float
  nonneg : 0.0 ≤ share
  bounded : share ≤ 0.2

namespace Jitter

/-- No share. -/
def none : Jitter := ⟨0.0, by decide, by decide⟩

/-- The greatest share. -/
def greatest : Jitter := ⟨0.2, by decide, by decide⟩

end Jitter

namespace Backoff

/-- A backoff whose limit is raised to the first delay. -/
def of (base max : Time.Span) : Backoff :=
  ⟨base, ⟨Max.max max.nanos base.nanos⟩, Nat.le_max_right _ _⟩

/-- A backoff in milliseconds. -/
def ofMillis (base max : Nat) : Backoff :=
  of (Time.Span.ofMillis base) (Time.Span.ofMillis max)

/-- Half a second at first, five seconds at most. -/
def standard : Backoff := ofMillis 500 5000

/-- Whole milliseconds of a span, in 64 bits. -/
def wordMillis (span : Time.Span) : Nat :=
  span.millis % 0x10000000000000000

/-- A product that stays in 64 bits. -/
def saturatingMul (left right : Nat) : Nat :=
  min (left * right) max64

/-- A power of two that stays in 64 bits. -/
def saturatingPow (exponent : Nat) : Nat :=
  min (Nat.pow 2 exponent) max64

/-- The delay before an attempt, without its random part. Attempts are counted from
one, and zero counts as one. -/
def delay (backoff : Backoff) (attempt : Nat) : Time.Span :=
  let exponent := min (attempt - 1) 63
  let doubled := saturatingMul (wordMillis backoff.base) (saturatingPow exponent)
  Time.Span.ofMillis (min doubled (wordMillis backoff.max))

/-- A share of a delay, in seconds. -/
def share (delay : Time.Span) (jitter : Jitter) : Float := jitter.share * delay.toSeconds

/-- A delay with a share of itself added. There is a span for every share of a delay. -/
def spread (delay : Time.Span) (jitter : Jitter) : Time.Span :=
  match Time.Span.ofFloat (share delay jitter) with
  | .ok extra => ⟨delay.nanos + extra.nanos⟩
  | .error _ => delay

end Backoff

end Scribe
