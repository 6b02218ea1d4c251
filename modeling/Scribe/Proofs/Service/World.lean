import Scribe.Proofs.Delivery.Moves
import Scribe.Proofs.Work.Handling

/-!
# The service and its broker

The service is the dispatcher with its workers, each of them handling one message after
the other, over a broker that keeps records for good.  A world is what the broker has kept
together with what the process has in memory.  It goes on in steps of any party, in any
order; calls may fail at any time, and a crash leaves nothing but what the broker has kept.
-/

namespace Scribe.Service

open Scribe.Broker
open Scribe.Delivery
open Scribe.Delivery.History
open Scribe.Dialogue
open Scribe.Work

/-- What a service is set up with, and how the broker calls its records. -/
structure Setup where
  processor : Processor
  limits : Limits
  /-- The window of completed jobs is empty at the start. -/
  lifetime : Time.Span
  capacity : Nat
  idOf : Nat → String
  /-- What is retried comes back to the topic that is consumed. -/
  same_topic : processor.retry.jobsTopic = limits.topic
  /-- No two records have one id. -/
  idOf_injective : ∀ one other, idOf one = idOf other → one = other

/-- What the broker has kept, and what the process has in memory. -/
structure World where
  /-- The records of all topics in the order of their arrival. -/
  journal : List Record := []
  /-- The messages whose commit was accepted. -/
  commits : List Message := []
  dispatch : Dispatch
  /-- What has happened since the start of the process. -/
  history : List Event := []
  window : Dedup.Window
  /-- What each worker has still to do about its message. -/
  errands : Nat → Errand Disposition := fun _ => .done .unresolved

/-- A process that has just started, with what the broker has kept. -/
def World.fresh (setup : Setup) (journal : List Record) (commits : List Message) : World :=
  { journal
    commits
    dispatch := .initial setup.limits
    window := { lifetime := setup.lifetime, capacity := setup.capacity } }

/-- The world with another errand for a worker. -/
def World.assign (world : World) (index : Nat) (errand : Errand Disposition) : World :=
  { world with errands := fun other => if other = index then errand else world.errands other }

/-- The world after a step of the delivery loop. -/
def World.moved (world : World) (dispatch : Dispatch) (events : List Event) : World :=
  { world with dispatch, history := world.history ++ events }

/-- A message brings the record at an index of the journal. -/
structure Brings (setup : Setup) (journal : List Record) (message : Message) (index : Nat)
    (record : Record) : Prop where
  found : journal[index]? = some record
  consumed : record.topic = setup.limits.topic
  topic : message.topic = record.topic
  key : message.key = record.key
  payload : message.payload = record.payload
  headers : message.headers = record.headers
  id : message.id = setup.idOf index

/-- Whether a request concerns neither the window nor the records. -/
def isElsewhere : Request → Bool
  | .isCompleted _ => false
  | .remember _ => false
  | .send _ => false
  | _ => true

/-- How a request can be answered, with the journal and the window after it.  The broker
keeps each record that it has taken, and perhaps one that it has refused. -/
inductive Answers (journal : List Record) (window : Dedup.Window) :
    (wanted : Request) → wanted.Answer → List Record → Dedup.Window → Prop
  | isCompleted (jobId : String) (now : Time.Span) :
      Answers journal window (.isCompleted jobId) (window.contains now jobId) journal window
  | remember (jobId : String) (now : Time.Span) :
      Answers journal window (.remember jobId) () journal (window.insert now jobId)
  | taken (record : Record) :
      Answers journal window (.send record) (.ok ()) (journal ++ [record]) window
  | refused (record : Record) (error : Error) :
      Answers journal window (.send record) (.error error) journal window
  | doubtful (record : Record) (error : Error) :
      Answers journal window (.send record) (.error error) (journal ++ [record]) window
  | elsewhere (wanted : Request) (answer : wanted.Answer)
      (isElsewhere_ : isElsewhere wanted = true) :
      Answers journal window wanted answer journal window

/-- What can happen next. -/
inductive Step (setup : Setup) : World → World → Prop
  /-- Someone publishes a job. -/
  | submit {world : World} {record : Record} (topic : record.topic = setup.limits.topic) :
      Step setup world { world with journal := world.journal ++ [record] }
  /-- A poll brings a job, above all that its partition has delivered to this process. -/
  | deliver {world : World} {next : Dispatch} {events : List Event} {index : Nat}
      {record : Record} {message : Message}
      (brings : Brings setup world.journal message index record)
      (above : ∀ earlier ∈ delivered world.history, Place.of earlier = Place.of message →
        earlier.offset < message.offset)
      (possible : world.dispatch.step (.polled (.ok (some message))) = some (next, events)) :
      Step setup world (world.moved next events)
  /-- A worker takes a message and begins to handle it. -/
  | take {world : World} {next : Dispatch} {index : Nat} {message : Message}
      (possible : world.dispatch.step (.worker index .take) =
        some (next, [.started message])) :
      Step setup world ((world.moved next [.started message]).assign index
        (setup.processor.process message))
  /-- A worker is told what it has asked. -/
  | work {world : World} {index : Nat} {message : Message} {wanted : Request}
      {rest : wanted.Answer → Errand Disposition} {answer : wanted.Answer}
      {journal : List Record} {window : Dedup.Window}
      (busy : world.dispatch.pool.workers[index]? = some (.busy message))
      (errand : world.errands index = .ask wanted rest)
      (answers : Answers world.journal world.window wanted answer journal window) :
      Step setup world ({ world with journal, window }.assign index (rest answer))
  /-- A worker reports what its errand has come to. -/
  | finish {world : World} {next : Dispatch} {events : List Event} {index : Nat}
      {disposition : Disposition} (errand : world.errands index = .done disposition)
      (possible : world.dispatch.step (.worker index (.finish disposition)) =
        some (next, events)) :
      Step setup world (world.moved next events)
  /-- The broker accepts a commit. -/
  | commit {world : World} {next : Dispatch} {events : List Event}
      (possible : world.dispatch.step (.commit (.ok ())) = some (next, events)) :
      Step setup world
        { world.moved next events with commits := world.commits ++ committed events }
  /-- Anything else in the delivery loop. -/
  | other {world : World} {next : Dispatch} {events : List Event} {move : Move}
      (plain : Dispatch.isPlain move = true)
      (possible : world.dispatch.step move = some (next, events)) :
      Step setup world (world.moved next events)
  /-- The process ends, in whatever way and wherever it was, and another one is started. -/
  | crash {world : World} : Step setup world (.fresh setup world.journal world.commits)

/-- What a service can come to from an empty broker. -/
inductive Reachable (setup : Setup) : World → Prop
  | start : Reachable setup (.fresh setup [] [])
  | step {world next : World} (reachable : Reachable setup world)
      (step : Step setup world next) : Reachable setup next

theorem Reachable.plainly {setup : Setup} {world : World} (reachable : Reachable setup world)
    (move : Move) {next : Dispatch} {events : List Event}
    (plain : Dispatch.isPlain move = true)
    (possible : world.dispatch.step move = some (next, events)) :
    Reachable setup (world.moved next events) :=
  reachable.step (.other plain possible)

/-! ## Errands that are carried out -/

/-- Surroundings with a broker that takes every record.  What concerns neither the window nor
the records has a fixed answer. -/
def reply (fixed : (wanted : Request) → wanted.Answer) :
    (wanted : Request) → List Record × Dedup.Window →
      wanted.Answer × (List Record × Dedup.Window)
  | .isCompleted jobId, (journal, window) => (window.contains ⟨0⟩ jobId, journal, window)
  | .remember jobId, (journal, window) => ((), journal, window.insert ⟨0⟩ jobId)
  | .send record, (journal, window) => (.ok (), journal ++ [record], window)
  | wanted, kept => (fixed wanted, kept)

theorem answers_reply (fixed : (wanted : Request) → wanted.Answer) (wanted : Request)
    (journal : List Record) (window : Dedup.Window) :
    Answers journal window wanted (reply fixed wanted (journal, window)).1
      (reply fixed wanted (journal, window)).2.1 (reply fixed wanted (journal, window)).2.2 := by
  cases wanted with
  | isCompleted jobId => exact .isCompleted jobId ⟨0⟩
  | remember jobId => exact .remember jobId ⟨0⟩
  | send record => exact .taken record
  | _ => exact .elsewhere _ _ rfl

theorem World.assign_same {world : World} {index : Nat} {errand : Errand Disposition}
    (same : world.errands index = errand) : world.assign index errand = world := by
  have errands :
      (fun other => if other = index then errand else world.errands other) = world.errands := by
    funext other
    split
    · next here => rw [here, same]
    · rfl
  rw [World.assign, errands]

theorem World.assign_assign (world : World) (index : Nat) (first second : Errand Disposition) :
    (world.assign index first).assign index second = world.assign index second := by
  simp only [World.assign, World.mk.injEq, true_and]
  funext other
  split <;> rfl

/-- A worker that is told whatever it asks comes to the end of its errand. -/
theorem Reachable.carried {setup : Setup} {world : World} (reachable : Reachable setup world)
    {index : Nat} {message : Message}
    (busy : world.dispatch.pool.workers[index]? = some (.busy message))
    (fixed : (wanted : Request) → wanted.Answer) {errand : Errand Disposition}
    (has : world.errands index = errand) {disposition : Disposition} {journal : List Record}
    {window : Dedup.Window}
    (came : errand.run (reply fixed) (world.journal, world.window) =
      (disposition, journal, window)) :
    Reachable setup ({ world with journal, window }.assign index (.done disposition)) := by
  -- The induction is on the errand, and each answer leads to another world with what is left.
  induction errand generalizing world with
  | done value =>
      cases came
      have same := World.assign_same has
      rwa [← same] at reachable
  | ask wanted rest ih =>
      have next := reachable.step
        (.work busy has (answers_reply fixed wanted world.journal world.window))
      have later := ih _ next busy (if_pos rfl) came
      rw [← World.assign_assign _ index (rest _)]
      exact later

end Scribe.Service
