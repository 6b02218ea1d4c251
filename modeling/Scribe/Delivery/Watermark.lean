import Scribe.Broker.Message

/-!
# Watermarks

Messages of a partition finish in any order but are committed in the order of their
offsets. A finished message is held until every message before it that was dispatched
has finished too; then it is released.
-/

namespace Scribe.Delivery

open Scribe.Broker

/-- A partition of a topic. -/
structure Place where
  topic : String
  partition : Int
deriving DecidableEq, Repr

/-- Where a message comes from. -/
def Place.of (message : Message) : Place :=
  ⟨message.topic, message.partition⟩

/-! ## One partition -/

/-- What is open in one partition: the offsets in flight, and the finished messages
that wait; both in the order of offsets. -/
structure Ledger where
  inFlight : List Int := []
  finished : List Message := []
deriving DecidableEq

namespace Ledger

/-- Put an offset at its place; one that is there stays. -/
def insertOffset (offset : Int) : List Int → List Int
  | [] => [offset]
  | other :: rest =>
      if offset < other then offset :: other :: rest
      else if offset = other then other :: rest
      else other :: insertOffset offset rest

/-- Put a message at the place of its offset; an earlier one with that offset gives
way. -/
def insertMessage (message : Message) : List Message → List Message
  | [] => [message]
  | other :: rest =>
      if message.offset < other.offset then message :: other :: rest
      else if message.offset = other.offset then message :: rest
      else other :: insertMessage message rest

/-- Note that an offset is in flight. -/
def track (ledger : Ledger) (offset : Int) : Ledger :=
  { ledger with inFlight := insertOffset offset ledger.inFlight }

/-- Whether an offset lies below everything in flight. -/
def isBelow (inFlight : List Int) (offset : Int) : Bool :=
  match inFlight with
  | [] => true
  | low :: _ => decide (offset < low)

/-- Note that a message has finished, and release what lies below everything still in
flight. -/
def complete (ledger : Ledger) (message : Message) : List Message × Ledger :=
  let inFlight := ledger.inFlight.filter (· != message.offset)
  let finished := insertMessage message ledger.finished
  let released := finished.takeWhile fun waiting => isBelow inFlight waiting.offset
  (released, ⟨inFlight, finished.drop released.length⟩)

/-- How many messages are open. -/
def size (ledger : Ledger) : Nat :=
  ledger.inFlight.length + ledger.finished.length

/-- Whether nothing is open. -/
def isEmpty (ledger : Ledger) : Bool :=
  ledger.inFlight.isEmpty && ledger.finished.isEmpty

end Ledger

/-! ## All partitions -/

/-- The open partitions. -/
structure Watermark where
  ledgers : List (Place × Ledger) := []
deriving DecidableEq

namespace Watermark

/-- The ledger of a partition, if it is open. -/
def find? (place : Place) : List (Place × Ledger) → Option Ledger
  | [] => none
  | (other, ledger) :: rest => if other = place then some ledger else find? place rest

/-- Replace the ledger of a partition; a new partition comes last. -/
def put (place : Place) (ledger : Ledger) : List (Place × Ledger) → List (Place × Ledger)
  | [] => [(place, ledger)]
  | (other, old) :: rest =>
      if other = place then (place, ledger) :: rest else (other, old) :: put place ledger rest

/-- Close a partition. -/
def close (place : Place) (ledgers : List (Place × Ledger)) : List (Place × Ledger) :=
  ledgers.filter fun entry => entry.1 ≠ place

/-- Note that a message is dispatched. -/
def track (watermark : Watermark) (message : Message) : Watermark :=
  let place := Place.of message
  let ledger := (find? place watermark.ledgers).getD {}
  ⟨put place (ledger.track message.offset) watermark.ledgers⟩

/-- Note that a message has finished, and release what may now be committed, in the
order of offsets. In a partition that is not open nothing can be waited for. -/
def complete (watermark : Watermark) (message : Message) : List Message × Watermark :=
  let place := Place.of message
  match find? place watermark.ledgers with
  | none => ([message], watermark)
  | some ledger =>
      let (released, ledger) := ledger.complete message
      (released, ⟨if ledger.isEmpty then close place watermark.ledgers
        else put place ledger watermark.ledgers⟩)

/-- Messages that were dispatched and are not released. -/
def outstanding (watermark : Watermark) : Nat :=
  watermark.ledgers.foldr (fun entry total => entry.2.size + total) 0

end Watermark

end Scribe.Delivery
