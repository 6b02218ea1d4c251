import Scribe.Broker.Memory
import Scribe.Delivery.Dispatch

/-!
# Rehearsals

A rehearsal is one order of steps out of all that are possible, with a broker in memory
and a clock in milliseconds. The dispatcher goes on until it has to wait, and then the
workers have their turn. A poll that brings nothing takes a few milliseconds, and after a
broker error the dispatcher rests. When the handling of a message ends is decided from
outside.
-/

namespace Scribe.Delivery

open Scribe.Broker

/-- Calls of the consumer that are made to fail. -/
structure Faults where
  subscribe : Bool := false
  pause : Bool := false
  resume : Bool := false
  close : Bool := false
deriving DecidableEq, Repr

/-- Dispatcher and workers with their broker. `wake` is when the dispatcher goes on, and
`log` holds what has happened, the last first. -/
structure Rehearsal where
  dispatch : Dispatch
  broker : Memory := {}
  faults : Faults := {}
  started : Bool := false
  clock : Nat := 0
  wake : Nat := 0
  log : List Event := []

namespace Rehearsal

/-- How long a poll that brings nothing takes at most. -/
def idlePoll : Nat := 5

/-- The answer of a call that is made to fail. -/
def injected (name : String) : Except Error Unit :=
  .error (.other (name ++ " injected"))

/-- What a worker does when it can do something by itself. -/
def workerMove? (pool : Pool) : Worker → Option WorkerMove
  | .looking => some .look
  | .waiting =>
      if pool.intake ≠ [] then some .take
      else if pool.accepting then none
      else some .leave
  | _ => none

/-- The first worker that can do something by itself. -/
def firstWorker? (pool : Pool) : (index : Nat) → List Worker → Option (Nat × WorkerMove)
  | _, [] => none
  | index, worker :: rest =>
      match workerMove? pool worker with
      | some move => some (index, move)
      | none => firstWorker? pool (index + 1) rest

/-- The next step of the dispatcher, with the broker after it and how long it takes. -/
def dispatcherMove? (rehearsal : Rehearsal) : Option (Move × Memory × Nat) :=
  let dispatch := rehearsal.dispatch
  let broker := rehearsal.broker
  match dispatch.phase with
  | .subscribing =>
      if rehearsal.faults.subscribe then some (.subscribed (injected "fail_subscribe"), broker, 0)
      else some (.subscribed (.ok ()), broker.subscribe dispatch.topics, 0)
  | .committing _ =>
      match dispatch.uncommitted with
      | [] => some (.proceed, broker, 0)
      | message :: _ =>
          let (answer, broker) := broker.commit message
          some (.commit answer, broker, 0)
  | .regulating full =>
      match dispatch.flow.evaluate full with
      | .hold => some (.proceed, broker, 0)
      | .pause =>
          if rehearsal.faults.pause then some (.regulated (injected "fail_pause"), broker, 0)
          else some (.regulated (.ok ()), broker.pause, 0)
      | .resume =>
          if rehearsal.faults.resume then some (.regulated (injected "fail_resume"), broker, 0)
          else some (.regulated (.ok ()), broker.resume, 0)
  | .choosing full =>
      if full = false ∧ dispatch.redelivery ≠ [] then some (.proceed, broker, 0)
      else
        let (answer, broker) := broker.poll
        let idle := min idlePoll dispatch.limits.pollTimeout.millis
        let pause :=
          match answer with
          | .ok (some _) => 0
          | .ok none => idle
          | .error error =>
              if error.isEndOfPartition then idle
              else if dispatch.pool.shutdown then 0 else dispatch.limits.errorBackoff.millis
        some (.polled answer, broker, pause)
  | .offering _ =>
      if dispatch.pool.shutdown then some (.interrupt, broker, 0)
      else if dispatch.pool.isFull && !dispatch.pool.isDeserted then none
      else some (.proceed, broker, 0)
  | .joining => if dispatch.pool.isDeserted then some (.proceed, broker, 0) else none
  | .closing =>
      if rehearsal.faults.close then some (.closed (injected "fail_close"), broker, 0)
      else some (.closed (.ok ()), broker.close, 0)
  | .ended _ => none
  | _ => some (.proceed, broker, 0)

/-- Make a step that is possible. -/
def make (rehearsal : Rehearsal) (move : Move) : Rehearsal :=
  match rehearsal.dispatch.step move with
  | none => rehearsal
  | some (dispatch, events) => { rehearsal with dispatch, log := events.reverse ++ rehearsal.log }

/-- Whether the dispatcher can go on now: its time has come, or it rests and the flag is
raised. -/
def isAwake (rehearsal : Rehearsal) : Bool :=
  decide (rehearsal.wake ≤ rehearsal.clock) ||
    match rehearsal.dispatch.phase with
    | .resting => rehearsal.dispatch.pool.shutdown
    | _ => false

/-- Let the first worker move that can, or else time pass until the dispatcher goes on. -/
def yieldTurn (deadline : Nat) (rehearsal : Rehearsal) : Option Rehearsal :=
  match firstWorker? rehearsal.dispatch.pool 0 rehearsal.dispatch.pool.workers with
  | some (index, move) => some (rehearsal.make (.worker index move))
  | none =>
      if rehearsal.isAwake then none
      else if rehearsal.wake ≤ deadline then some { rehearsal with clock := rehearsal.wake }
      else none

/-- Let everything happen until a time. -/
def settle (deadline : Nat) : (fuel : Nat) → Rehearsal → Rehearsal
  | 0, rehearsal => rehearsal
  | fuel + 1, rehearsal =>
      match if rehearsal.isAwake then rehearsal.dispatcherMove? else none with
      | some (move, broker, pause) =>
          settle deadline fuel { rehearsal.make move with broker, wake := rehearsal.clock + pause }
      | none =>
          match rehearsal.yieldTurn deadline with
          | some rehearsal => settle deadline fuel rehearsal
          | none => { rehearsal with clock := deadline }

/-- Steps that are more than enough for a span: each millisecond lets the dispatcher go
round, and each message moves a bounded number of times. -/
def enough (rehearsal : Rehearsal) (millis : Nat) : Nat :=
  16 * (millis + 4) *
    (1 + rehearsal.broker.queue.length + rehearsal.dispatch.redelivery.length +
      rehearsal.dispatch.pool.outcomes.length + rehearsal.dispatch.uncommitted.length +
      rehearsal.dispatch.pool.workers.length)

/-- Let a span of milliseconds pass. -/
def pass (rehearsal : Rehearsal) (millis : Nat) : Rehearsal :=
  if rehearsal.started then settle (rehearsal.clock + millis) (rehearsal.enough millis) rehearsal
  else { rehearsal with clock := rehearsal.clock + millis }

/-- The worker that handles the message at an offset. -/
def workerAt? (offset : Int) : (index : Nat) → List Worker → Option Nat
  | _, [] => none
  | index, worker :: rest =>
      match worker with
      | .busy message =>
          if message.offset = offset then some index else workerAt? offset (index + 1) rest
      | _ => workerAt? offset (index + 1) rest

/-- End the handling of the message at an offset: with a disposition, or by the worker
breaking down. -/
def finish (rehearsal : Rehearsal) (offset : Int) (ending : Option Disposition) :
    Option Rehearsal :=
  (workerAt? offset 0 rehearsal.dispatch.pool.workers).map fun index =>
    match ending with
    | some disposition => rehearsal.make (.worker index (.finish disposition))
    | none => rehearsal.make (.worker index .crash)

/-! ### What has happened -/

/-- Offsets without those that repeat the one before. -/
def withoutRepeats : List Int → List Int
  | first :: second :: rest =>
      if first = second then withoutRepeats (second :: rest)
      else first :: withoutRepeats (second :: rest)
  | offsets => offsets

/-- The offset of an accepted commit. -/
def acceptedCommit? : Event → Option Int
  | .committed message => some message.offset
  | _ => none

/-- The offset of a refused commit. -/
def refusedCommit? : Event → Option Int
  | .commitFailed message => some message.offset
  | _ => none

/-- The message that a worker began to handle. -/
def begun? : Event → Option Message
  | .started message => some message
  | _ => none

/-- The log, the first event first. -/
def events (rehearsal : Rehearsal) : List Event :=
  rehearsal.log.reverse

/-- Offsets of the accepted commits in the log. -/
def commits (rehearsal : Rehearsal) : List Int :=
  rehearsal.events.filterMap acceptedCommit?

/-- Offsets of all commits in the log, without repetitions. -/
def attempts (rehearsal : Rehearsal) : List Int :=
  withoutRepeats (rehearsal.events.filterMap fun event =>
    (acceptedCommit? event).or (refusedCommit? event))

/-- Whether the log has a refused commit. -/
def refused (rehearsal : Rehearsal) : Bool :=
  rehearsal.events.any fun event => (refusedCommit? event).isSome

/-- How many polls the log has. -/
def polls (rehearsal : Rehearsal) : Nat :=
  rehearsal.events.count .polled

/-- Messages that workers began to handle, by offset. -/
def begun (rehearsal : Rehearsal) : List Message :=
  (rehearsal.events.filterMap begun?).mergeSort fun left right =>
    decide (left.offset ≤ right.offset)

/-- Offsets of the messages that are being handled, in order. -/
def inFlight (rehearsal : Rehearsal) : List Int :=
  (rehearsal.dispatch.pool.busy.map Message.offset).mergeSort fun left right =>
    decide (left ≤ right)

/-- How the dispatcher ended, if it has. -/
def ending? (rehearsal : Rehearsal) : Option (Except Error Unit) :=
  match rehearsal.dispatch.phase with
  | .ended result => some result
  | _ => none

end Rehearsal

/-! ## Workers alone -/

/-- A pool in which every message takes the same time. Each entry of `ends` is when a
worker is done with its message. -/
structure Drill where
  pool : Pool
  ends : List (Nat × Nat) := []
  clock : Nat := 0
  peak : Nat := 0
  outcomes : List Outcome := []

/-- What a drill goes by: how long a message takes, how it ends, and when the flag is
raised. -/
structure DrillPlan where
  span : Nat
  ending : Message → WorkerMove
  raiseAt : Option Nat

namespace Drill

/-- Let a worker move. -/
def make (plan : DrillPlan) (drill : Drill) (index : Nat) (move : WorkerMove) : Drill :=
  match drill.pool.step index move with
  | none => drill
  | some (pool, events) =>
      let ends := drill.ends.filter fun entry => entry.1 ≠ index
      let started := events.any fun event =>
        match event with
        | .started _ => true
        | _ => false
      let finished := events.filterMap fun event =>
        match event with
        | .finished outcome => some outcome
        | _ => none
      { drill with
        pool
        ends := if started then ends ++ [(index, drill.clock + plan.span)] else ends
        peak := max drill.peak pool.busy.length
        outcomes := drill.outcomes ++ finished }

/-- The worker that is done next, with the time. -/
def nextEnd? : List (Nat × Nat) → Option (Nat × Nat)
  | [] => none
  | entry :: rest =>
      match nextEnd? rest with
      | none => some entry
      | some other => if other.2 < entry.2 then some other else some entry

/-- Run a pool until nothing happens any more. -/
def run (plan : DrillPlan) : (fuel : Nat) → Drill → Drill
  | 0, drill => drill
  | fuel + 1, drill =>
      if !drill.pool.shutdown && plan.raiseAt.any (fun time => decide (time ≤ drill.clock)) then
        run plan fuel { drill with pool := { drill.pool with shutdown := true } }
      else
        match Rehearsal.firstWorker? drill.pool 0 drill.pool.workers with
        | some (index, move) => run plan fuel (drill.make plan index move)
        | none =>
            match nextEnd? (drill.ends.filter fun entry => entry.2 ≤ drill.clock) with
            | some (index, _) =>
                match (drill.pool.workers[index]?).bind Worker.message? with
                | none => drill
                | some message => run plan fuel (drill.make plan index (plan.ending message))
            | none =>
                match nextEnd? drill.ends with
                | none => drill
                | some (_, time) =>
                    let time :=
                      match plan.raiseAt with
                      | some raise =>
                          if drill.pool.shutdown then time else min time raise
                      | none => time
                    run plan fuel { drill with clock := time }

/-- Run a pool from its beginning; each message and each worker makes a bounded number of
moves. -/
def start (plan : DrillPlan) (pool : Pool) : Drill :=
  run plan (8 * (pool.intake.length + pool.workers.length + 1)) { pool }

end Drill

end Scribe.Delivery
