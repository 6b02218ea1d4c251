import Scribe.Decimal.Shortest
import Scribe.Time.Span

/-!
# Seconds as spans

A double of seconds becomes the nearest span; half a nanosecond goes to the even side.
-/

namespace Scribe.Time

open Scribe.Decimal

/-- Why a double is no span. -/
inductive SecondsFault
  | negative
  | tooLarge
deriving DecidableEq, Repr

/-- The wording of a fault. -/
def SecondsFault.message : SecondsFault → String
  | .negative => "cannot convert float seconds to Duration: value is negative"
  | .tooLarge => "cannot convert float seconds to Duration: value is either too big or NaN"

/-- A quotient rounded to the nearest number; a half goes to the even one. -/
def roundEven (num den : Nat) : Nat :=
  let quotient := num / den
  let rest := num % den
  if 2 * rest < den ∨ (2 * rest = den ∧ quotient % 2 = 0) then quotient else quotient + 1

/-- The nearest number of nanoseconds to a number of seconds. -/
def nanosOf (seconds : Binary) : Nat :=
  let scaled := seconds.mantissa * Span.perSecond
  if seconds.exponent < 0 then roundEven scaled (Nat.pow 2 seconds.exponent.natAbs)
  else scaled * Nat.pow 2 seconds.exponent.natAbs

/-- The span of a number of seconds. -/
def Span.ofFloat (seconds : Float) : Except SecondsFault Span :=
  if seconds < 0.0 then .error .negative
  else if seconds.isNaN || seconds.isInf then .error .tooLarge
  else
    let nanos := nanosOf (Binary.ofBits seconds.toBits.toNat)
    if greatest.nanos < nanos then .error .tooLarge else .ok ⟨nanos⟩

end Scribe.Time
