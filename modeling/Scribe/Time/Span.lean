import Scribe.Text.Numeral
import Scribe.Decimal.Layout

/-!
# Spans of time

A span is a number of nanoseconds. Its short form uses the largest unit of
seconds, milliseconds, microseconds and nanoseconds that does not exceed it, with
a fraction that has no zeros at its end.
-/

namespace Scribe.Time

open Scribe.Text

/-- A length of time in nanoseconds. -/
structure Span where
  nanos : Nat
deriving DecidableEq, Repr, Inhabited

namespace Span

instance : LE Span := ⟨fun left right => left.nanos ≤ right.nanos⟩

instance (left right : Span) : Decidable (left ≤ right) :=
  inferInstanceAs (Decidable (left.nanos ≤ right.nanos))

/-- Nanoseconds in a second. -/
def perSecond : Nat := 1000000000

/-- Nanoseconds in a millisecond. -/
def perMilli : Nat := 1000000

/-- A span of whole seconds. -/
def ofSeconds (seconds : Nat) : Span := ⟨seconds * perSecond⟩

/-- A span of whole milliseconds. -/
def ofMillis (millis : Nat) : Span := ⟨millis * perMilli⟩

/-- Whole seconds of a span. -/
def seconds (span : Span) : Nat := span.nanos / perSecond

/-- Nanoseconds beyond the whole seconds. -/
def subsecond (span : Span) : Nat := span.nanos % perSecond

/-- Whole milliseconds of a span. -/
def millis (span : Span) : Nat := span.nanos / perMilli

/-- Greatest span that is ever built: 64 bits of seconds and almost one more. -/
def greatest : Span := ⟨0x10000000000000000 * perSecond - 1⟩

/-- Seconds as a double. -/
def toSeconds (span : Span) : Float :=
  (UInt64.ofNat span.seconds).toFloat + (UInt64.ofNat span.subsecond).toFloat / 1000000000.0

/-- A fraction of `places` digits without the zeros at its end. -/
def fraction (places value : Nat) : String :=
  let digits := List.replicate (places - (decimalChars value).length) '0' ++ decimalChars value
  let kept := (digits.reverse.dropWhile (· == '0')).reverse
  if kept.isEmpty then "" else "." ++ String.ofList kept

/-- The short form of a span. -/
def short (span : Span) : String :=
  if perSecond ≤ span.nanos then
    decimal (span.nanos / perSecond) ++ fraction 9 (span.nanos % perSecond) ++ "s"
  else if perMilli ≤ span.nanos then
    decimal (span.nanos / perMilli) ++ fraction 6 (span.nanos % perMilli) ++ "ms"
  else if 1000 ≤ span.nanos then
    decimal (span.nanos / 1000) ++ fraction 3 (span.nanos % 1000) ++ "µs"
  else decimal span.nanos ++ "ns"

end Span

end Scribe.Time
