/-!
# Marks

A mark is something that the metrics count or show: what happens to messages carries
the topic, what happens to jobs does not.
-/

namespace Scribe

/-- Something that is counted, or whose present value is shown. -/
inductive Mark
  | received (topic : String)
  | committed (topic : String)
  | commitFailed (topic : String)
  | brokerFailed (topic : String)
  | intakeDepth (topic : String) (depth : Nat)
  | consumerPaused (topic : String) (paused : Bool)
  | retryScheduled (topic code : String)
  | deadLettered (topic code : String)
  | redelivered (topic : String)
  | jobCompleted
  | jobFailed
  | jobDuplicate
  | failed (code : String)
  | downloaded
  | transcribed
  | processed
deriving DecidableEq, Repr

end Scribe
