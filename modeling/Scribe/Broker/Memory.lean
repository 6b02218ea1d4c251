import Scribe.Broker.Error
import Scribe.Broker.Message

/-!
# A broker in memory

One queue of messages for all topics, with offsets counted for each topic by itself.
A consumer gets the earliest message of the topics it subscribed to. Commits and sent
records are logged. Switches make calls fail: a closed broker comes first, then failing
polls, then polls that report the end of a partition, then a paused consumer.
-/

namespace Scribe.Broker

open Scribe.Text

/-- A broker in memory. -/
structure Memory where
  queue : List Message := []
  counts : List (String × Nat) := []
  subscribed : List String := []
  sent : List Record := []
  committed : List Message := []
  paused : Bool := false
  pauses : Nat := 0
  resumes : Nat := 0
  failSends : Bool := false
  failPolls : Bool := false
  endPolls : Bool := false
  failCommits : Bool := false
  polls : Nat := 0
  failedCommits : Nat := 0
  closed : Bool := false

namespace Memory

/-- How many messages a topic has got. -/
def count (topic : String) : List (String × Nat) → Nat
  | [] => 0
  | (other, n) :: rest => if other = topic then n else count topic rest

/-- Count one more message of a topic. -/
def bump (topic : String) : List (String × Nat) → List (String × Nat)
  | [] => [(topic, 1)]
  | (other, n) :: rest =>
      if other = topic then (other, n + 1) :: rest else (other, n) :: bump topic rest

/-- Put a message into the queue, and give it the next offset of its topic. -/
def push (memory : Memory) (topic : String) (key : Option String) (payload : ByteArray)
    (headers : Headers) : Nat × Memory :=
  let offset := count topic memory.counts
  let message : Message :=
    { topic, partition := 0, offset, key, payload, headers
      id := topic ++ "-0-" ++ decimal offset }
  (offset, { memory with
    queue := memory.queue ++ [message]
    counts := bump topic memory.counts })

/-- Choose the topics to get messages of. -/
def subscribe (memory : Memory) (topics : List String) : Memory :=
  { memory with subscribed := topics }

/-- The first message that satisfies a test, and the others. -/
def takeFirst (wanted : Message → Bool) : List Message → Option Message × List Message
  | [] => (none, [])
  | message :: rest =>
      if wanted message then (some message, rest)
      else
        let (found, others) := takeFirst wanted rest
        (found, message :: others)

/-- Get the next message. -/
def poll (memory : Memory) : Except Error (Option Message) × Memory :=
  if memory.closed then (.error .closed, memory)
  else
    let memory := { memory with polls := memory.polls + 1 }
    if memory.failPolls then (.error (.other "poll rejected"), memory)
    else if memory.endPolls then
      (.error (.endOfPartition (memory.subscribed.head?.getD "") 0), memory)
    else if memory.paused then (.ok none, memory)
    else
      let (found, queue) :=
        takeFirst (fun message => memory.subscribed.contains message.topic) memory.queue
      (.ok found, { memory with queue })

/-- Hold the consumer back. -/
def pause (memory : Memory) : Memory :=
  { memory with paused := true, pauses := memory.pauses + 1 }

/-- Let the consumer go on. -/
def resume (memory : Memory) : Memory :=
  { memory with paused := false, resumes := memory.resumes + 1 }

/-- Commit a message. -/
def commit (memory : Memory) (message : Message) : Except Error Unit × Memory :=
  if memory.failCommits then
    (.error (.other ("commit of " ++ message.id ++ " rejected")),
      { memory with failedCommits := memory.failedCommits + 1 })
  else (.ok (), { memory with committed := memory.committed ++ [message] })

/-- Close the broker. -/
def close (memory : Memory) : Memory :=
  { memory with closed := true }

/-- Why a record to a topic is refused. -/
def sendRefused (topic : String) : Error :=
  .other ("send to " ++ topic ++ " rejected")

/-- Send a record. -/
def send (memory : Memory) (record : Record) : Except Error Unit × Memory :=
  if memory.failSends then (.error (sendRefused record.topic), memory)
  else (.ok (), { memory with sent := memory.sent ++ [record] })

/-- The records that were sent to a topic. -/
def sentTo (memory : Memory) (topic : String) : List Record :=
  memory.sent.filter fun record => record.topic == topic

end Memory

end Scribe.Broker
