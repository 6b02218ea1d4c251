import Scribe.Text.Numeral
import Scribe.Time.Span

/-!
# Broker errors

Ways in which talking to the message broker can fail. The end of a partition is
reported as an error although nothing went wrong.
-/

namespace Scribe.Broker

open Scribe.Text

/-- Why a call to the broker did not succeed. -/
inductive Error
  | server (message : String)
  | endOfPartition (topic : String) (partition : Int)
  | serialization (message : String)
  | flushTimeout (timeout : Time.Span)
  | closed
  | other (message : String)
deriving DecidableEq, Repr

namespace Error

/-- The wording of an error. -/
def message : Error → String
  | .server message => "Redis error: " ++ message
  | .endOfPartition topic partition =>
      "End of partition " ++ topic ++ "[" ++ signedDecimal partition ++ "]"
  | .serialization message => "Serialization error: " ++ message
  | .flushTimeout timeout => "Flush timed out after " ++ timeout.short
  | .closed => "Broker client is closed"
  | .other message => "Broker error: " ++ message

/-- Whether the error only says that a partition has no more messages. -/
def isEndOfPartition : Error → Bool
  | .endOfPartition _ _ => true
  | _ => false

end Error

end Scribe.Broker
