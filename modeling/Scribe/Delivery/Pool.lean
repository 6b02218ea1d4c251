import Scribe.Delivery.Disposition

/-!
# The worker pool

Messages wait in a bounded queue, the intake. Each worker looks at the shutdown flag,
waits for a message, handles it, and reports its outcome. A worker that sees the flag,
or finds the intake closed and empty, leaves; so does one whose report nobody takes, and
one that breaks down while handling a message. When all workers have left nobody takes
messages any more.
-/

namespace Scribe.Delivery

open Scribe.Broker

/-- What a worker is doing. -/
inductive Worker
  | looking
  | waiting
  | busy (message : Message)
  | gone
deriving DecidableEq

/-- The message that a worker is handling. -/
def Worker.message? : Worker → Option Message
  | .busy message => some message
  | _ => none

/-- Workers with the queues before and behind them. -/
structure Pool where
  capacity : Nat
  workers : List Worker := []
  intake : List Message := []
  accepting : Bool := true
  outcomes : List Outcome := []
  listening : Bool := true
  shutdown : Bool := false
deriving DecidableEq

/-- What happens to messages on their way. -/
inductive Event
  | polled
  | received (message : Message)
  | brokerFailed
  | started (message : Message)
  | finished (outcome : Outcome)
  | crashed (message : Message)
  | redelivered (message : Message)
  | committed (message : Message)
  | commitFailed (message : Message)
  | depthSeen (depth : Nat)
  | flowChanged (paused : Bool)
deriving DecidableEq

/-- What a worker can do. -/
inductive WorkerMove
  /-- Look at the flag, and wait for a message or leave. -/
  | look
  /-- Take the first message of the intake. -/
  | take
  /-- Stop waiting for a while, to look at the flag again. -/
  | idle
  /-- Leave, as the intake is closed and empty. -/
  | leave
  /-- Finish the message. -/
  | finish (disposition : Disposition)
  /-- Break down. -/
  | crash
deriving DecidableEq

namespace Pool

/-- A pool of new workers, at least one. -/
def spawn (size capacity : Nat) : Pool :=
  { capacity, workers := List.replicate (max size 1) .looking }

/-- Whether all workers have left. -/
def isDeserted (pool : Pool) : Bool :=
  pool.workers.all (· == .gone)

/-- How many messages take up room in the intake; a deserted one gives all its room
back. -/
def depth (pool : Pool) : Nat :=
  if pool.isDeserted then 0 else pool.intake.length

/-- Whether the intake has no room. -/
def isFull (pool : Pool) : Bool :=
  decide (pool.capacity ≤ pool.depth)

/-- The messages that are being handled. -/
def busy (pool : Pool) : List Message :=
  pool.workers.filterMap Worker.message?

/-- Change what a worker is doing. -/
def setWorker (pool : Pool) (index : Nat) (worker : Worker) : Pool :=
  { pool with workers := pool.workers.set index worker }

/-- One move of a worker, with what it makes happen; nothing if the worker cannot make
that move. -/
def step (pool : Pool) (index : Nat) (move : WorkerMove) : Option (Pool × List Event) :=
  match pool.workers[index]?, move with
  | some .looking, .look =>
      some (pool.setWorker index (if pool.shutdown then .gone else .waiting), [])
  | some .waiting, .take =>
      match pool.intake with
      | [] => none
      | message :: rest =>
          some ({ pool with intake := rest }.setWorker index (.busy message), [.started message])
  | some .waiting, .idle => some (pool.setWorker index .looking, [])
  | some .waiting, .leave =>
      if pool.accepting = false ∧ pool.intake = [] then some (pool.setWorker index .gone, [])
      else none
  | some (.busy message), .finish disposition =>
      let outcome : Outcome := ⟨message, disposition⟩
      if pool.listening then
        some ({ pool with outcomes := pool.outcomes ++ [outcome] }.setWorker index .looking,
          [.finished outcome])
      else some (pool.setWorker index .gone, [])
  | some (.busy message), .crash => some (pool.setWorker index .gone, [.crashed message])
  | _, _ => none

end Pool

end Scribe.Delivery
