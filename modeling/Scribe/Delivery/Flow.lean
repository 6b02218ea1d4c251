/-!
# Flow control

While the intake queue is full the consumer is held back; the first look that finds
room lets it go on.
-/

namespace Scribe.Delivery

/-- What has to be done to the consumer. -/
inductive FlowAction
  | pause
  | resume
  | hold
deriving DecidableEq, Repr

/-- The name of an action. -/
def FlowAction.name : FlowAction → String
  | .pause => "Pause"
  | .resume => "Resume"
  | .hold => "Hold"

/-- What is known of the consumer: whether it is held back. -/
structure Flow where
  paused : Bool := false
deriving DecidableEq, Repr

namespace Flow

/-- The action that a look at the queue asks for. -/
def evaluate (flow : Flow) (full : Bool) : FlowAction :=
  match full, flow.paused with
  | true, false => .pause
  | false, true => .resume
  | _, _ => .hold

/-- Note that an action was carried out. -/
def applied (flow : Flow) : FlowAction → Flow
  | .pause => ⟨true⟩
  | .resume => ⟨false⟩
  | .hold => flow

end Flow

end Scribe.Delivery
