import Scribe.Time.Span

/-!
# Limits of the delivery loop

How many workers there are, how many messages may wait for them, how long one poll
may take and how long to rest after a broker error. There is always at least one
worker and room for one message.
-/

namespace Scribe.Delivery

/-- The limits of a delivery loop over one topic. -/
structure Limits where
  topic : String := "stt.jobs"
  concurrency : Nat := 1
  capacity : Nat := 4
  pollTimeout : Time.Span := Time.Span.ofMillis 500
  errorBackoff : Time.Span := Time.Span.ofSeconds 1
deriving DecidableEq, Repr

namespace Limits

/-- Set the number of workers. -/
def withConcurrency (limits : Limits) (count : Nat) : Limits :=
  { limits with concurrency := max count 1 }

/-- Set the room for waiting messages. -/
def withCapacity (limits : Limits) (capacity : Nat) : Limits :=
  { limits with capacity := max capacity 1 }

end Limits

end Scribe.Delivery
