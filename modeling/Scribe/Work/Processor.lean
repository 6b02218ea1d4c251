import Scribe.Failure.Chain
import Scribe.Retry.Policy

/-!
# Handling a message

The payload is read as a job; a job that was completed lately is a duplicate. Otherwise
its audio is downloaded, converted and transcribed, and the result is published. A failed
stage goes to the retry policy, and when the message is given up a failed result is
published as well. The scratch files of the job are removed before anything else is done
about a failure.
-/

namespace Scribe

open Scribe.Delivery
open Scribe.Work

/-- How jobs are handled. -/
structure Processor where
  resultsTopic : String := "stt.results"
  directory : String
  downloadTimeout : Time.Span := Time.Span.ofSeconds 30
  maxBytes : Nat := 26214400
  maxSeconds : Float := 600.0
  selector : Selector
  retry : RetryPolicy := {}

namespace Processor

/-- The failure of a recording that is too long. -/
def tooLong (limit : Float) : Failure :=
  .of .audioTooLong ("Audio longer than " ++ Decimal.plain limit ++ "s")

/-- The record of a result. -/
def resultRecord (processor : Processor) (job : Job) (result : JobResult) : Broker.Record :=
  { topic := processor.resultsTopic
    key := some job.jobId
    payload := result.toJson.bytes
    headers := [] }

/-- Publish a result. -/
def publish (processor : Processor) (job : Job) (result : JobResult) :
    Errand (Except Failure Unit) := do
  match ← RetryPolicy.publish processor.retry.flushTimeout (processor.resultRecord job result) with
  | .ok _ => return .ok ()
  | .error error => return .error (ErrorChain.broker error).convert

/-- Download the audio of a job and convert it. -/
def prepare (processor : Processor) (job : Job) (scratch : Audio.Scratch) :
    Errand (Except Failure Recording) := do
  match ← request (.fetch job.audioUrl scratch processor.downloadTimeout processor.maxBytes) with
  | .error failure => return .error failure
  | .ok _ => do
      request (.note .downloaded)
      match ← request (.convert scratch) with
      | .error failure => return .error failure
      | .ok recording =>
          if recording.seconds > processor.maxSeconds then
            return .error (tooLong processor.maxSeconds)
          else return .ok recording

/-- Publish the result of a transcribed job, and remember the job. -/
def complete (processor : Processor) (job : Job) (transcription : Transcription) :
    Errand (Except StageFailure Unit) := do
  let now ← request .now
  let result := JobResult.completed job transcription.transcript transcription.engine.kind.name
    transcription.engine.version now
  match ← processor.publish job result with
  | .error failure => return .error ⟨.publish, failure⟩
  | .ok _ => do
      request (.remember job.jobId)
      request (.note .jobCompleted)
      request (.note .processed)
      return .ok ()

/-- Bring a job from its download to its result, with the files at hand. -/
def carryOut (processor : Processor) (job : Job) (language : String)
    (scratch : Audio.Scratch) : Errand (Except StageFailure Unit) := do
  match ← processor.prepare job scratch with
  | .error failure => return .error ⟨.download, failure⟩
  | .ok recording =>
      match ← processor.selector.transcribe recording language with
      | .error failure => return .error ⟨.transcribe, failure⟩
      | .ok transcription => do
          request (.note .transcribed)
          processor.complete job transcription

/-- Bring a job to its result; its files are gone afterwards. -/
def runJob (processor : Processor) (job : Job) : Errand (Except StageFailure Unit) := do
  let language := processor.selector.resolveLanguage job.languageHint
  match ← request (.makeDirectory processor.directory) with
  | .error failure => return .error ⟨.download, failure⟩
  | .ok _ => do
      let drawn ← request .drawNumber
      let scratch := Audio.Scratch.of processor.directory job.jobId drawn
      let outcome ← processor.carryOut job language scratch
      request (.removeScratch scratch)
      return outcome

/-- Publish the result of a job that has failed for good. -/
def reportFailed (processor : Processor) (job : Job) (failure : Failure) :
    Errand Disposition := do
  let now ← request .now
  let result := JobResult.failed job failure processor.selector.primary.kind.name
    processor.selector.primary.version now
  match ← processor.publish job result with
  | .ok _ => return .deadLettered
  | .error _ => return .unresolved

/-- Decide what becomes of a message whose stage has failed. -/
def fail (processor : Processor) (message : Broker.Message) (payload : Option Json)
    (job : Option Job) (failed : StageFailure) : Errand Disposition := do
  request (.note (.failed failed.failure.code.name))
  match ← processor.retry.handle message failed.stage.name failed.failure payload with
  | .deadLettered => do
      request (.note .jobFailed)
      match job with
      | none => return .deadLettered
      | some job => processor.reportFailed job failed.failure
  | disposition => return disposition

/-- Handle a message whose payload is a job. -/
def processJob (processor : Processor) (message : Broker.Message) (payload : Json)
    (job : Job) : Errand Disposition := do
  if ← request (.isCompleted job.jobId) then
    request (.note .jobDuplicate)
    return .duplicate
  else
    match ← processor.runJob job with
    | .ok _ => return .completed
    | .error failed => processor.fail message (some payload) (some job) failed

/-- Handle a message. -/
def process (processor : Processor) (message : Broker.Message) : Errand Disposition :=
  match Job.decodePayload message.payload with
  | .error failure => processor.fail message none none ⟨.validation, failure⟩
  | .ok payload =>
      match Job.ofJson payload with
      | .error failure => processor.fail message (some payload) none ⟨.validation, failure⟩
      | .ok job => processor.processJob message payload job

end Processor

/-- The name that the processor goes by. -/
def Processor.name : String := "JobProcessor"

end Scribe
