import Scribe.Delivery.Rehearsal
import Scribe.Metrics.Registry
import Scribe.View.Message
import Scribe.Walkthrough.Steps

/-!
# Walking through a delivery

A dispatcher and its workers run step by step, where the broker, the ends of the jobs and
what fails are given. After each step two seconds pass.
-/

namespace Scribe.Walkthrough

open Scribe.Delivery
open Scribe.View

/-- A disposition from its name. -/
def dispositionOf (name : String) : Disposition := (Disposition.ofName? name).getD .completed

/-- Messages without a content, put into a topic. -/
def pushMany (topic : String) (headers : Broker.Headers) (broker : Broker.Memory) :
    (count : Nat) → Broker.Memory
  | 0 => broker
  | count + 1 =>
      pushMany topic headers (broker.push topic none ByteArray.empty headers).2 count

/-- A rehearsal with its metrics. -/
structure DeliveryUse where
  rehearsal : Rehearsal
  metrics : Metrics := {}

/-- What a step says besides what happens after it. -/
structure StepNote where
  note : Option String := none
  ends : List Json := []

namespace DeliveryUse

/-- How many milliseconds pass after a step. -/
def settling : Nat := 2000

/-- The use before its first step. -/
def start (plan : Json) : DeliveryUse :=
  let base : Limits :=
    { topic := plan.textAt "topic" "stt.jobs"
      pollTimeout := .ofMillis 10
      errorBackoff := .ofMillis 200 }
  let limits := base.withConcurrency (plan.natAt "concurrency" 1)
  ⟨{ dispatch := Dispatch.initial (limits.withCapacity (plan.natAt "capacity" 4)) }, {}⟩

/-- Set a switch. -/
def switch (rehearsal : Rehearsal) (flag : String) (value : Bool) : Rehearsal :=
  let broker := rehearsal.broker
  let faults := rehearsal.faults
  match flag with
  | "fail_commits" => { rehearsal with broker := { broker with failCommits := value } }
  | "fail_polls" => { rehearsal with broker := { broker with failPolls := value } }
  | "eof_polls" => { rehearsal with broker := { broker with endPolls := value } }
  | "fail_pause" => { rehearsal with faults := { faults with pause := value } }
  | "fail_resume" => { rehearsal with faults := { faults with resume := value } }
  | "fail_subscribe" => { rehearsal with faults := { faults with subscribe := value } }
  | _ => { rehearsal with faults := { faults with close := value } }

/-- End a job that is in flight. -/
def finish (rehearsal : Rehearsal) (offset : Int) (ending : String) : Rehearsal × StepNote :=
  match rehearsal.finish offset (if ending == "panic" then none else dispositionOf ending) with
  | none => (rehearsal, { note := some "not in flight" })
  | some rehearsal =>
      (rehearsal, { ends := [.array [.string "end", .ofInt offset, .string ending]] })

/-- Make one step. -/
def step (rehearsal : Rehearsal) (json : Json) : Rehearsal × StepNote :=
  match json.textAt "do" "" with
  | "start" => ({ rehearsal with started := true }, {})
  | "push" =>
      let topic := json.textAt "topic" rehearsal.dispatch.limits.topic
      let broker := pushMany topic (headersAt json) rehearsal.broker (json.natAt "count" 1)
      ({ rehearsal with broker }, {})
  | "finish" => finish rehearsal (json.intAt "offset" 0) (json.textAt "as" "completed")
  | "set" => (switch rehearsal (json.textAt "flag" "") (json.boolAt "value" true), {})
  | "shutdown" => (rehearsal.make .raise, {})
  | _ => (rehearsal, {})

/-- How much was polled. -/
def polledAmount (polls : Nat) : String :=
  if polls == 0 then "none" else if polls ≤ 40 then "few" else "many"

/-- What has happened since the step began. -/
def shown (rehearsal : Rehearsal) (note : StepNote) : Json :=
  let begun := rehearsal.begun.map fun message =>
    .array [.string "start", .ofInt message.offset, count message.attempt]
  object [("note", .ofOption note.note),
    ("running", .bool (rehearsal.started && rehearsal.ending?.isNone)),
    ("ended", optional done rehearsal.ending?),
    ("pending", count rehearsal.broker.queue.length),
    ("paused", .bool rehearsal.broker.paused), ("closed", .bool rehearsal.broker.closed),
    ("in_flight", list .ofInt rehearsal.inFlight), ("events", .array (note.ends ++ begun)),
    ("committed", list .ofInt rehearsal.commits),
    ("commit_rejected", .bool rehearsal.refused),
    ("commit_attempts", list .ofInt rehearsal.attempts),
    ("polled", .string (polledAmount rehearsal.polls))]

/-- Make one step and let time pass. -/
def walk (json : Json) (use : DeliveryUse) : Json × DeliveryUse :=
  let (rehearsal, note) := step { use.rehearsal with log := [] } json
  let rehearsal := rehearsal.pass settling
  let marks := rehearsal.events.flatMap (Dispatch.marks rehearsal.dispatch.limits.topic)
  (shown rehearsal note, ⟨rehearsal, use.metrics.noteAll marks⟩)

end DeliveryUse

/-- Go through a whole delivery. -/
def delivery (plan : Json) : Json :=
  let (steps, use) := walk plan DeliveryUse.walk (DeliveryUse.start plan)
  let topics := if use.rehearsal.started then use.rehearsal.dispatch.topics else []
  let lines := use.metrics.lines.filter fun line =>
    !line.startsWith "worker_broker_errors" && !line.startsWith "worker_commit_errors"
  object [("steps", steps), ("subscribed", list .string topics), ("metrics", list .string lines)]

/-- Let a pool alone handle messages that all take five milliseconds. -/
def drill (plan : Json) : Json :=
  let items := plan.natAt "items" 0
  let named (key : String) (message : Broker.Message) : Bool :=
    ((plan.itemsAt key).filterMap Json.int?).contains message.offset
  let raiseAt := (plan.field "shutdown_after_ms").nat?
  let pool := { Pool.spawn (plan.natAt "size" 1) (max items 1) with
    intake := (pushMany "stt.jobs" [] {} items).queue
    accepting := raiseAt.isSome
    shutdown := plan.boolAt "shutdown_first" false
    listening := !plan.boolAt "close_completions" false }
  let ending (message : Broker.Message) : WorkerMove :=
    if named "panics" message then .crash
    else .finish (if named "unresolved" message then .unresolved else .completed)
  let drill := Drill.start ⟨5, ending, raiseAt⟩ pool
  let outcomes :=
    drill.outcomes.mergeSort fun left right => left.message.offset ≤ right.message.offset
  object [("peak", count drill.peak), ("outcomes", list (fun (outcome : Outcome) =>
    .array [.ofInt outcome.message.offset, .string outcome.disposition.name,
      .bool outcome.commits]) outcomes)]

end Scribe.Walkthrough
