import Scribe.Broker.Memory
import Scribe.Dedup.Window
import Scribe.Metrics.Registry
import Scribe.Work.Processor

/-!
# Scripted surroundings

Surroundings that answer the requests of a worker from a script, one script for each
message. What the collaborators were asked is logged, as are the records that were sent.
Time passes only where somebody waits.
-/

namespace Scribe.Work

/-- What an engine says, and how long it takes for it. -/
structure Reply where
  heard : Except Failure Transcript
  delay : Time.Span := ⟨0⟩

/-- How the collaborators behave for one message. -/
structure Script where
  fetched : Except Failure Unit := .ok ()
  converted : Except Failure Float := .ok 10.0
  primary : Reply
  fallback : Reply
  refused : List String := []
  flushFails : Bool := false

/-- A call of a collaborator. -/
inductive Call
  | fetch (address : String) (scratch : Audio.Scratch) (timeout : Time.Span) (limit : Nat)
  | convert (scratch : Audio.Scratch) (present : Bool)
  | transcribe (role : EngineRole) (recording : Recording) (language : String)

/-- What lasts from message to message, with the logs. -/
structure Surroundings where
  script : Script
  now : Time.Stamp
  window : Dedup.Window := .standard
  directory : Except Failure Unit := .ok ()
  files : List String := []
  calls : List Call := []
  sent : List Broker.Record := []
  waited : Time.Span := ⟨0⟩
  metrics : Metrics := {}

namespace Surroundings

/-- Let time pass. -/
def wait (here : Surroundings) (span : Time.Span) : Surroundings :=
  { here with waited := ⟨here.waited.nanos + span.nanos⟩ }

/-- Log a call. -/
def log (here : Surroundings) (call : Call) : Surroundings :=
  { here with calls := here.calls ++ [call] }

/-- The reply of an engine, if it comes in time. -/
def hear (here : Surroundings) (reply : Reply) (timeout : Time.Span) :
    Option (Except Failure Transcript) × Surroundings :=
  if reply.delay ≤ timeout then (some reply.heard, here.wait reply.delay)
  else (none, here.wait timeout)

/-- Answer a request. -/
def answer (wanted : Request) (here : Surroundings) : wanted.Answer × Surroundings :=
  match wanted with
  | .isCompleted jobId => (here.window.contains ⟨0⟩ jobId, here)
  | .remember jobId => ((), { here with window := here.window.insert ⟨0⟩ jobId })
  | .makeDirectory _ => (here.directory, here)
  | .drawNumber => (0, here)
  | .fetch address scratch timeout limit =>
      let here := here.log (.fetch address scratch timeout limit)
      match here.script.fetched with
      | .error failure => (.error failure, here)
      | .ok _ => (.ok (), { here with files := here.files ++ [scratch.input] })
  | .convert scratch =>
      let here := here.log (.convert scratch (here.files.contains scratch.input))
      match here.script.converted with
      | .error failure => (.error failure, here)
      | .ok seconds =>
          (.ok ⟨scratch.wave, seconds⟩, { here with files := here.files ++ [scratch.wave] })
  | .transcribe role recording language timeout =>
      let here := here.log (.transcribe role recording language)
      match role with
      | .primary => here.hear here.script.primary timeout
      | .fallback => here.hear here.script.fallback timeout
  | .removeScratch scratch =>
      ((), { here with
        files := here.files.filter fun file => file != scratch.input && file != scratch.wave })
  | .send record =>
      if here.script.refused.contains record.topic then
        (.error (Broker.Memory.sendRefused record.topic), here)
      else (.ok (), { here with sent := here.sent ++ [record] })
  | .flush timeout =>
      (if here.script.flushFails then .error (.flushTimeout timeout) else .ok (), here)
  | .now => (here.now, here)
  | .drawJitter => (Jitter.none, here)
  | .sleep span => ((), here.wait span)
  | .note mark => ((), { here with metrics := here.metrics.note mark })

/-- Do an errand under a script of its own; the logs begin anew. -/
def perform {α : Type} (errand : Errand α) (script : Script) (here : Surroundings) :
    α × Surroundings :=
  errand.run answer { here with script, calls := [], sent := [], waited := ⟨0⟩ }

end Surroundings

end Scribe.Work
