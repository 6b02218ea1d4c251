import Scribe.Stream.Command

/-!
# Stream producers

A record becomes an entry of the stream that its topic names. The server answers when the
entry is there, so nothing is left to wait for afterwards.
-/

namespace Scribe.Stream

open Scribe.Broker (Record Error)

/-- A producer. -/
structure Producer where
  /-- About how many entries a stream keeps. -/
  limit : Int := 100000
deriving DecidableEq, Repr

namespace Producer

/-- Send a record. -/
def send (producer : Producer) (record : Record) : Talk (Except Error Unit) := do
  match ← call (.append record.topic producer.limit (fieldsOf record)) Reply.text with
  | .ok _ => return .ok ()
  | .error fault => return .error fault.toBroker

end Producer

end Scribe.Stream
