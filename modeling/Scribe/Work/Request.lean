import Scribe.Audio.Scratch
import Scribe.Broker.Error
import Scribe.Broker.Message
import Scribe.Engine.Selector
import Scribe.Metrics.Mark
import Scribe.Retry.Backoff
import Scribe.Time.Stamp

/-!
# Requests of a worker

What the handling of a message asks of its surroundings: the window of completed jobs,
the scratch directory, the download, the conversion, the engines, the producer, the
clock, chance, and the metrics.
-/

namespace Scribe.Work

/-- Something that is asked of the surroundings. -/
inductive Request
  /-- Whether a job was completed lately. -/
  | isCompleted (jobId : String)
  /-- Remember that a job is completed. -/
  | remember (jobId : String)
  /-- Make a directory with all above it. -/
  | makeDirectory (path : String)
  /-- Draw a number of 128 bits. -/
  | drawNumber
  /-- Download an address to a file. -/
  | fetch (address : String) (scratch : Audio.Scratch) (timeout : Time.Span) (limit : Nat)
  /-- Convert the downloaded file to a wave. -/
  | convert (scratch : Audio.Scratch)
  /-- Ask an engine for a transcript; it may fail to answer in time. -/
  | transcribe (role : EngineRole) (recording : Recording) (language : String)
      (timeout : Time.Span)
  /-- Remove the files of a job. -/
  | removeScratch (scratch : Audio.Scratch)
  /-- Send a record. -/
  | send (record : Broker.Record)
  /-- Wait until what was sent is delivered. -/
  | flush (timeout : Time.Span)
  /-- The time of day. -/
  | now
  /-- A random share of a delay. -/
  | drawJitter
  /-- Wait. -/
  | sleep (span : Time.Span)
  /-- Note something in the metrics. -/
  | note (mark : Mark)

namespace Request

/-- What a request is answered with. -/
abbrev Answer : Request → Type
  | .isCompleted _ => Bool
  | .remember _ => Unit
  | .makeDirectory _ => Except Failure Unit
  | .drawNumber => Nat
  | .fetch _ _ _ _ => Except Failure Unit
  | .convert _ => Except Failure Recording
  | .transcribe _ _ _ _ => Option (Except Failure Transcript)
  | .removeScratch _ => Unit
  | .send _ => Except Broker.Error Unit
  | .flush _ => Except Broker.Error Unit
  | .now => Time.Stamp
  | .drawJitter => Jitter
  | .sleep _ => Unit
  | .note _ => Unit

end Request

/-- A computation of a worker. -/
abbrev Errand := Dialogue Request Request.Answer

/-- Ask the surroundings. -/
def request (wanted : Request) : Errand wanted.Answer := Dialogue.query wanted

end Scribe.Work

namespace Scribe.Selector

open Scribe.Work

/-- Ask one engine. -/
def ask (selector : Selector) (role : EngineRole) (engine : Engine) (recording : Recording)
    (language : String) : Errand (Except Failure Transcription) := do
  let reply ← request (.transcribe role recording language selector.options.timeout)
  return (heard selector.options.timeout reply).map fun transcript =>
    ⟨transcript, engine, role == .fallback⟩

/-- Transcribe with the primary engine, and if that fails with its stand-in. -/
def transcribe (selector : Selector) (recording : Recording) (language : String) :
    Errand (Except Failure Transcription) := do
  match ← selector.ask .primary selector.primary recording language with
  | .ok transcription => return .ok transcription
  | .error failure =>
      match selector.standIn? with
      | none => return .error failure
      | some engine => selector.ask .fallback engine recording language

end Scribe.Selector
