import Scribe.Time.Span

/-!
# The window of completed jobs

The window remembers ids for a time, and no more than a number of them: when there
are too many, the id that was inserted least recently is forgotten. Looking an id up
changes nothing.
-/

namespace Scribe.Dedup

/-- An id and when it was inserted last. -/
structure Entry where
  id : String
  since : Time.Span
deriving DecidableEq, Repr

/-- Ids with the time of their last insertion, oldest first. -/
structure Window where
  lifetime : Time.Span
  capacity : Nat
  entries : List Entry := []
deriving DecidableEq, Repr

/-- Why a window cannot be made. -/
inductive WindowFault
  | lifetimeTooLong
deriving DecidableEq, Repr

/-- The wording of a fault. -/
def WindowFault.message : WindowFault → String
  | .lifetimeTooLong => "time_to_live is longer than 1000 years"

/-- Greatest lifetime: a thousand years of 365 days. -/
def longestLifetime : Time.Span := Time.Span.ofSeconds (1000 * 365 * 86400)

namespace Window

/-- An empty window. -/
def of (lifetime : Time.Span) (capacity : Nat) : Except WindowFault Window :=
  if longestLifetime.nanos < lifetime.nanos then .error .lifetimeTooLong
  else .ok { lifetime, capacity }

/-- An empty window for an hour and ten thousand ids. -/
def standard : Window := { lifetime := Time.Span.ofSeconds 3600, capacity := 10000 }

/-- Whether an entry is still remembered. -/
def isLive (window : Window) (now : Time.Span) (entry : Entry) : Bool :=
  decide (now.nanos < entry.since.nanos + window.lifetime.nanos)

/-- The window without what is too old. -/
def expire (window : Window) (now : Time.Span) : Window :=
  { window with entries := window.entries.filter (window.isLive now) }

/-- The window without the oldest entries that are too many. -/
def shrink (window : Window) : Window :=
  { window with entries := window.entries.drop (window.entries.length - window.capacity) }

/-- Remember an id from now on. -/
def insert (window : Window) (now : Time.Span) (id : String) : Window :=
  shrink (expire
    { window with entries := window.entries.filter (fun entry => entry.id != id) ++ [⟨id, now⟩] }
    now)

/-- Whether an id is remembered. -/
def contains (window : Window) (now : Time.Span) (id : String) : Bool :=
  window.entries.any fun entry => entry.id == id && window.isLive now entry

/-- How many ids are remembered. -/
def size (window : Window) (now : Time.Span) : Nat :=
  (window.expire now).entries.length

end Window

end Scribe.Dedup
