import Scribe.Stream.Command

/-!
# Connecting

A connection is there when the server has answered a first command over it. If that fails
it is tried again a number of times, after a delay that grows.
-/

namespace Scribe.Stream

/-- Connect once. -/
def connectOnce (text : String) : Talk (Read Unit) := do
  match Address.parse text with
  | .error fault => return .error (.address fault)
  | .ok address =>
      match ← ask (.connect address) with
      | .error fault => return .error fault
      | .ok _ => return (← call .ping Reply.text).map fun _ => ()

/-- Connect, with some tries left after this one. -/
def connectFrom (text : String) (backoff : Backoff) (attempt : Nat) :
    (left : Nat) → Talk (Read Unit)
  | 0 => connectOnce text
  | left + 1 => do
      match ← connectOnce text with
      | .ok _ => return .ok ()
      | .error _ => do
          let jitter ← ask .drawJitter
          ask (.sleep (Backoff.spread (backoff.delay attempt) jitter))
          connectFrom text backoff (attempt + 1) left

/-- Connect in a number of tries; there is always one. -/
def connect (text : String) (attempts : Nat) (backoff : Backoff) : Talk (Read Unit) :=
  connectFrom text backoff 1 (attempts - 1)

end Scribe.Stream
