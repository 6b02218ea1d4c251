import Scribe.Stream.Command

/-!
# Stream consumers

A consumer first takes up again, entry by entry, what it had been given before and not
acknowledged. After that it takes over what other consumers have left lying for long, and
reads what is new. Offsets are counted from zero in the order of delivery. A consumer that
is paused neither asks for nor gives anything.
-/

namespace Scribe.Stream

open Scribe.Broker (Message Error)

/-- A consumer of one stream. -/
structure Consumer where
  group : String
  /-- The name by which the server knows the consumer. -/
  name : String
  /-- How long an entry must lie with another consumer before it is taken over. -/
  claimIdle : Time.Span := Time.Span.ofSeconds 300
  stream : String := ""
  /-- The id behind which to go on taking up old entries, until there are no more. -/
  cursor : Option String := some "0"
  nextOffset : Nat := 0
  paused : Bool := false
  /-- When entries were last taken over. -/
  lastClaim : Option Time.Span := none
  /-- Messages taken over that still wait. -/
  claimed : List Message := []
deriving DecidableEq

/-- What comes of a step of a consumer, and the consumer afterwards. -/
abbrev Outcome (α : Type) := Except Error α × Consumer

/-- An entry that some consumer has not acknowledged. -/
structure Unfinished where
  id : String
  owner : String
  /-- For how many milliseconds. -/
  idle : Int
  deliveries : Int
deriving DecidableEq, Repr

/-- Read an unfinished entry. -/
def Unfinished.ofReply : Reply → Read Unfinished
  | .list [id, owner, idle, deliveries] => do
      return ⟨← id.text, ← owner.text, ← idle.number, ← deliveries.number⟩
  | .list _ => .error .misshapen
  | other => other.mistaken

namespace Consumer

/-- How many unfinished entries are looked at in one pass. -/
def batch : Nat := 100

/-- The group on the stream. -/
def on (consumer : Consumer) : Group :=
  ⟨consumer.stream, consumer.group⟩

/-! ## Subscribing -/

/-- Make the group; that it is there already is no error. -/
def ensureGroup (on : Group) : Talk (Except Error Unit) := do
  match ← call (.createGroup on) fun reply =>
      match reply with
      | .refusal text => .error (.refused text)
      | _ => .ok () with
  | .ok _ => return .ok ()
  | .error fault =>
      if fault.mentions "BUSYGROUP" then return .ok () else return .error fault.toBroker

/-- Consume a stream. -/
def subscribe (consumer : Consumer) : (topics : List String) → Talk (Outcome Unit)
  | [stream] => do
      let consumer := { consumer with stream }
      return (← ensureGroup consumer.on, consumer)
  | topics =>
      let count := Text.decimal topics.length
      return (.error (.other ("expected exactly one stream, got " ++ count)), consumer)

/-! ## Reading -/

/-- Give an entry the next offset. -/
def receive (consumer : Consumer) (stream : String) (entry : Entry) : Message × Consumer :=
  (entry.message stream consumer.nextOffset,
    { consumer with nextOffset := consumer.nextOffset + 1 })

/-- Give entries their offsets in order. -/
def receiveAll (stream : String) : List Entry → Consumer → List Message × Consumer
  | [], consumer => ([], consumer)
  | entry :: rest, consumer =>
      let (message, consumer) := consumer.receive stream entry
      let (messages, consumer) := receiveAll stream rest consumer
      (message :: messages, consumer)

/-- Streams with their entries; there may be none at all. -/
def streamsOf (reply : Reply) : Read (List (String × List Entry)) := do
  let entries (reply : Reply) : Read (List Entry) := do (← reply.items).mapM Entry.ofReply
  return (← reply.optional (Reply.pairs Reply.text entries)).getD []

/-- The first entry of the first stream that has one. -/
def firstEntry? (streams : List (String × List Entry)) : Option (String × Entry) :=
  streams.findSome? fun stream => stream.2.head?.map (stream.1, ·)

/-- Read one entry behind an id. If the group is gone it is made again, and nothing is
read. -/
def read (consumer : Consumer) (behind : String) (wait : Option Nat) :
    Talk (Outcome (Option Message)) := do
  match ← call (.readGroup consumer.on consumer.name wait behind) streamsOf with
  | .ok streams =>
      match firstEntry? streams with
      | none => return (.ok none, consumer)
      | some (stream, entry) =>
          let (message, consumer) := consumer.receive stream entry
          return (.ok (some message), consumer)
  | .error fault =>
      if fault.mentions "NOGROUP" then
        match ← ensureGroup consumer.on with
        | .ok _ => return (.ok none, consumer)
        | .error error => return (.error error, consumer)
      else return (.error fault.toBroker, consumer)

/-! ## Taking over -/

/-- The least idle time in milliseconds, as a signed number of 64 bits. -/
def minIdle (consumer : Consumer) : Int :=
  Int.bmod consumer.claimIdle.millis 0x10000000000000000

/-- How far two passes lie apart. -/
def claimInterval (consumer : Consumer) : Time.Span :=
  ⟨2 * consumer.claimIdle.nanos⟩

/-- Whether it is time for a pass. -/
def claimDue (consumer : Consumer) (now : Time.Span) : Bool :=
  match consumer.lastClaim with
  | none => true
  | some last => decide (consumer.claimInterval.nanos ≤ now.nanos - last.nanos)

/-- Whether an unfinished entry was abandoned by another consumer. -/
def mayClaim (consumer : Consumer) (entry : Unfinished) : Bool :=
  decide (consumer.minIdle ≤ entry.idle) && entry.owner != consumer.name

/-- Entries that were taken over; one that is gone from the stream is nil. -/
def claimedOf (reply : Reply) : Read (List Entry) := do
  let entries ← (← reply.items).mapM (Reply.optional Entry.ofReply)
  return entries.filterMap id

/-- Take over what other consumers have abandoned. -/
def claim (consumer : Consumer) : Talk (Except Fault (List Message) × Consumer) := do
  let unfinished ← call (.pending consumer.on batch) fun reply => do
    (← reply.items).mapM Unfinished.ofReply
  match unfinished with
  | .error fault =>
      if fault.mentions "NOGROUP" then return (.ok [], consumer)
      else return (.error fault, consumer)
  | .ok unfinished =>
      let ids := (unfinished.filter consumer.mayClaim).map Unfinished.id
      if ids.isEmpty then return (.ok [], consumer)
      else
        match ← call (.claim consumer.on consumer.name consumer.minIdle ids) claimedOf with
        | .error fault => return (.error fault, consumer)
        | .ok entries =>
            let (messages, consumer) := receiveAll consumer.stream entries consumer
            return (.ok messages, consumer)

/-- Take over if it is time for it. What goes wrong in it does no harm. -/
def claimWhenDue (consumer : Consumer) : Talk Consumer := do
  let now ← ask .clock
  if consumer.claimDue now then
    match ← claim { consumer with lastClaim := some now } with
    | (.ok messages, consumer) =>
        return { consumer with claimed := consumer.claimed ++ messages }
    | (.error _, consumer) => return consumer
  else return consumer

/-! ## Polling -/

/-- The next message out of those taken over, of which there may be new ones, or else a
new entry. -/
def readNew (consumer : Consumer) (timeout : Time.Span) : Talk (Outcome (Option Message)) := do
  let consumer ← consumer.claimWhenDue
  match consumer.claimed with
  | message :: rest => return (.ok (some message), { consumer with claimed := rest })
  | [] => consumer.read ">" (some (max timeout.millis 1))

/-- The next message, if there is one. -/
def poll (consumer : Consumer) (timeout : Time.Span) : Talk (Outcome (Option Message)) := do
  if consumer.paused then do
    ask (.sleep timeout)
    return (.ok none, consumer)
  else
    match consumer.claimed, consumer.cursor with
    | message :: rest, _ => return (.ok (some message), { consumer with claimed := rest })
    | [], none => consumer.readNew timeout
    | [], some cursor => do
        match ← consumer.read cursor none with
        | (.error error, consumer) => return (.error error, consumer)
        | (.ok (some message), consumer) =>
            return (.ok (some message), { consumer with cursor := some message.id })
        | (.ok none, consumer) => readNew { consumer with cursor := none } timeout

/-- Stop giving messages. -/
def pause (consumer : Consumer) : Consumer := { consumer with paused := true }

/-- Give messages again. -/
def resume (consumer : Consumer) : Consumer := { consumer with paused := false }

/-- Acknowledge a message. -/
def commit (consumer : Consumer) (message : Message) : Talk (Except Error Unit) := do
  match ← call (.acknowledge ⟨message.topic, consumer.group⟩ message.id) Reply.number with
  | .ok _ => return .ok ()
  | .error fault => return .error fault.toBroker

end Consumer

end Scribe.Stream
