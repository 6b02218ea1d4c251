import Scribe.Broker.Error
import Scribe.Delivery.Flow
import Scribe.Delivery.Limits
import Scribe.Delivery.Pool
import Scribe.Delivery.Watermark
import Scribe.Metrics.Mark

/-!
# Dispatching messages

Dispatching brings messages from a consumer to the workers and commits them in order. The
dispatcher goes round in a loop: it looks at the shutdown flag, takes the outcomes that
have come in, commits what the watermark releases, holds the consumer back or lets it go
on, and passes one message to the intake, a redelivered one before a polled one. A commit
that is refused is tried again in the next round, before any other. After the flag was
seen the dispatcher waits for the workers, commits what has finished, and closes the
consumer.

Dispatcher and workers move in steps, in any order; what the consumer answers is part of
a step.
-/

namespace Scribe.Delivery

open Scribe.Broker

/-- Where the dispatcher is. `last` tells the round after the workers have left; `full`
is what was seen of the intake in this round. -/
inductive Phase
  | subscribing
  | checking
  | draining (last : Bool)
  | committing (last : Bool)
  | measuring
  | regulating (full : Bool)
  | choosing (full : Bool)
  | resting
  | offering (message : Message)
  | joining
  | closing
  | ended (result : Except Error Unit)

/-- The dispatcher with its bookkeeping, and the workers. -/
structure Dispatch where
  limits : Limits
  phase : Phase := .subscribing
  watermark : Watermark := {}
  flow : Flow := {}
  redelivery : List Message := []
  uncommitted : List Message := []
  unsent : Option Message := none
  pool : Pool

/-- A step of the dispatcher, a worker or someone outside. -/
inductive Move
  /-- Someone raises the shutdown flag. -/
  | raise
  /-- A worker moves. -/
  | worker (index : Nat) (move : WorkerMove)
  /-- The dispatcher goes on by itself. -/
  | proceed
  /-- The dispatcher gives up waiting for room, as the flag is raised. -/
  | interrupt
  /-- The consumer answers the subscription. -/
  | subscribed (answer : Except Error Unit)
  /-- The consumer answers the commit of the first released message. -/
  | commit (answer : Except Error Unit)
  /-- The consumer answers being held back or let on. -/
  | regulated (answer : Except Error Unit)
  /-- The consumer answers a poll. -/
  | polled (answer : Except Error (Option Message))
  /-- The consumer answers being closed. -/
  | closed (answer : Except Error Unit)

namespace Dispatch

/-- Everything before the start. -/
def initial (limits : Limits) : Dispatch :=
  { limits, pool := { capacity := max limits.capacity 1 } }

/-- The topics to subscribe to. -/
def topics (dispatch : Dispatch) : List String := [dispatch.limits.topic]

/-- What comes after committing. -/
def afterCommit (last : Bool) : Phase :=
  if last then .closing else .measuring

/-- Take one outcome: a settled message goes to the watermark, another one back to the
workers. -/
def takeOutcome (dispatch : Dispatch) (outcome : Outcome) (rest : List Outcome) :
    Dispatch × List Event :=
  let dispatch := { dispatch with pool := { dispatch.pool with outcomes := rest } }
  if outcome.commits then
    let (released, watermark) := dispatch.watermark.complete outcome.message
    ({ dispatch with watermark, uncommitted := dispatch.uncommitted ++ released }, [])
  else
    ({ dispatch with redelivery := dispatch.redelivery ++ [outcome.message] },
      [.redelivered outcome.message])

/-- Stop dispatching; the intake is closed. -/
def stop (dispatch : Dispatch) (unsent : Option Message) : Dispatch :=
  { dispatch with phase := .joining, unsent, pool := { dispatch.pool with accepting := false } }

/-- A step of the dispatcher that needs no answer. -/
def proceed (dispatch : Dispatch) : Option (Dispatch × List Event) :=
  match dispatch.phase with
  | .checking =>
      if dispatch.pool.shutdown then some (dispatch.stop none, [])
      else some ({ dispatch with phase := .draining false }, [])
  | .draining last =>
      match dispatch.pool.outcomes with
      | [] => some ({ dispatch with phase := .committing last }, [])
      | outcome :: rest => some (dispatch.takeOutcome outcome rest)
  | .committing last =>
      match dispatch.uncommitted with
      | [] => some ({ dispatch with phase := afterCommit last }, [])
      | _ :: _ => none
  | .measuring => some ({ dispatch with phase := .regulating dispatch.pool.isFull }, [])
  | .regulating full =>
      match dispatch.flow.evaluate full with
      | .hold =>
          some ({ dispatch with phase := .choosing full }, [.depthSeen dispatch.pool.depth])
      | _ => none
  | .choosing full =>
      match full, dispatch.redelivery with
      | false, message :: rest =>
          some ({ dispatch with phase := .offering message, redelivery := rest }, [])
      | _, _ => none
  | .resting => some ({ dispatch with phase := .checking }, [])
  | .offering message =>
      if dispatch.pool.isDeserted then some (dispatch.stop (some message), [])
      else if dispatch.pool.isFull then none
      else
        some ({ dispatch with
          phase := .checking
          pool := { dispatch.pool with intake := dispatch.pool.intake ++ [message] } }, [])
  | .joining =>
      if dispatch.pool.isDeserted then some ({ dispatch with phase := .draining true }, [])
      else none
  | _ => none

/-- What a poll brings. -/
def receive (dispatch : Dispatch) : Except Error (Option Message) → Dispatch × List Event
  | .ok (some message) =>
      ({ dispatch with
        phase := .offering message
        watermark := dispatch.watermark.track message }, [.polled, .received message])
  | .ok none => ({ dispatch with phase := .checking }, [.polled])
  | .error error =>
      if error.isEndOfPartition then ({ dispatch with phase := .checking }, [.polled])
      else ({ dispatch with phase := .resting }, [.polled, .brokerFailed])

/-- What the answer to a commit of the first released message brings. -/
def accept (dispatch : Dispatch) (last : Bool) (message : Message) (rest : List Message) :
    Except Error Unit → Dispatch × List Event
  | .ok _ => ({ dispatch with uncommitted := rest }, [.committed message])
  | .error _ => ({ dispatch with phase := afterCommit last }, [.commitFailed message])

/-- What the answer to an action on the consumer brings. -/
def adjust (dispatch : Dispatch) (full : Bool) (action : FlowAction) :
    Except Error Unit → Dispatch × List Event
  | .ok _ =>
      let flow := dispatch.flow.applied action
      ({ dispatch with phase := .choosing full, flow },
        [.flowChanged flow.paused, .depthSeen dispatch.pool.depth])
  | .error _ =>
      ({ dispatch with phase := .choosing full }, [.depthSeen dispatch.pool.depth])

/-- One step, with what it makes happen; nothing if the step is not possible. -/
def step (dispatch : Dispatch) : Move → Option (Dispatch × List Event)
  | .raise => some ({ dispatch with pool := { dispatch.pool with shutdown := true } }, [])
  | .worker index move =>
      (dispatch.pool.step index move).map fun (pool, events) => ({ dispatch with pool }, events)
  | .proceed => dispatch.proceed
  | .interrupt =>
      match dispatch.phase with
      | .offering message =>
          if dispatch.pool.shutdown then some (dispatch.stop (some message), []) else none
      | _ => none
  | .subscribed answer =>
      match dispatch.phase, answer with
      | .subscribing, .ok _ =>
          let pool := Pool.spawn dispatch.limits.concurrency dispatch.pool.capacity
          some ({ dispatch with
            phase := .checking
            pool := { pool with shutdown := dispatch.pool.shutdown } }, [])
      | .subscribing, .error error => some ({ dispatch with phase := .ended (.error error) }, [])
      | _, _ => none
  | .commit answer =>
      match dispatch.phase, dispatch.uncommitted with
      | .committing last, message :: rest => some (dispatch.accept last message rest answer)
      | _, _ => none
  | .regulated answer =>
      match dispatch.phase with
      | .regulating full =>
          match dispatch.flow.evaluate full with
          | .hold => none
          | action => some (dispatch.adjust full action answer)
      | _ => none
  | .polled answer =>
      match dispatch.phase with
      | .choosing full =>
          if full = false ∧ dispatch.redelivery ≠ [] then none else some (dispatch.receive answer)
      | _ => none
  | .closed answer =>
      match dispatch.phase with
      | .closing => some ({ dispatch with phase := .ended answer }, [])
      | _ => none

/-- Several steps, with all that they make happen. -/
def steps (dispatch : Dispatch) : List Move → Option (Dispatch × List Event)
  | [] => some (dispatch, [])
  | move :: rest =>
      match dispatch.step move with
      | none => none
      | some (dispatch, events) =>
          match dispatch.steps rest with
          | none => none
          | some (dispatch, later) => some (dispatch, events ++ later)

/-- What the metrics note of an event. -/
def marks (topic : String) : Event → List Mark
  | .received _ => [.received topic]
  | .brokerFailed => [.brokerFailed topic]
  | .redelivered _ => [.redelivered topic]
  | .committed _ => [.committed topic]
  | .commitFailed _ => [.commitFailed topic]
  | .depthSeen depth => [.intakeDepth topic depth]
  | .flowChanged paused => [.consumerPaused topic paused]
  | _ => []

end Dispatch

end Scribe.Delivery
