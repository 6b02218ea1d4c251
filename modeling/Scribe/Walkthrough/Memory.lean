import Scribe.Broker.Memory
import Scribe.View.Message
import Scribe.Walkthrough.Steps

/-!
# Walking through the use of a broker in memory

One consumer and one producer use a broker step by step. Each step is answered with its
result and the state of the broker.
-/

namespace Scribe.Walkthrough

open Scribe.Broker (Message Memory)
open Scribe.View

/-- A broker, and the message that came last from it. -/
structure MemoryUse where
  broker : Memory := {}
  last : Option Message := none

namespace MemoryUse

/-- The use of a changed broker, where all went well. -/
def changed (use : MemoryUse) (broker : Memory) : Json × MemoryUse :=
  (.string "ok", { use with broker })

/-- The use of a broker with a switch set. -/
def switched (use : MemoryUse) (broker : Memory) : Json × MemoryUse :=
  (.null, { use with broker })

/-- Commit the message that came last. -/
def commit (use : MemoryUse) : Json × MemoryUse :=
  match use.last with
  | none => (.null, use)
  | some message =>
      let (result, broker) := use.broker.commit message
      (done result, { use with broker })

/-- Make one step. -/
def step (use : MemoryUse) (json : Json) : Json × MemoryUse :=
  let broker := use.broker
  let value := json.boolAt "value" true
  match json.textAt "do" "" with
  | "subscribe" => use.changed (broker.subscribe (textsAt json "topics"))
  | "push" =>
      let (offset, broker) := broker.push (json.textAt "topic" "jobs") (json.textAt? "key")
        (bytesAt json "payload") (headersAt json)
      (count offset, { use with broker })
  | "poll" =>
      let (result, broker) := broker.poll
      (polled result, { broker, last := result.toOption.join.or use.last })
  | "commit" => use.commit
  | "pause" => use.changed broker.pause
  | "resume" => use.changed broker.resume
  | "close" => use.changed broker.close
  | "send" =>
      let (result, broker) := broker.send (recordOf json "results")
      (done result, { use with broker })
  | "flush" => use.changed broker
  | "sent_to" => (list sent (broker.sentTo (json.textAt "topic" "")), use)
  | "fail_sends" => use.switched { broker with failSends := value }
  | "fail_polls" => use.switched { broker with failPolls := value }
  | "eof_polls" => use.switched { broker with endPolls := value }
  | "fail_commits" => use.switched { broker with failCommits := value }
  | _ => (.null, use)

/-- Make one step, and show the broker with it. -/
def walk (json : Json) (use : MemoryUse) : Json × MemoryUse :=
  let (result, use) := use.step json
  let broker := use.broker
  (object [("result", result), ("pending", count broker.queue.length),
    ("polls", count broker.polls), ("paused", .bool broker.paused),
    ("pauses", count broker.pauses), ("resumes", count broker.resumes),
    ("committed", list (fun message => .ofInt message.offset) broker.committed),
    ("failed_commits", count broker.failedCommits), ("sent", count broker.sent.length),
    ("closed", .bool broker.closed)], use)

end MemoryUse

end Scribe.Walkthrough
