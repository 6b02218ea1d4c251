import Scribe.Delivery.Disposition
import Scribe.Retry.DeadLetter
import Scribe.Work.Request

/-!
# The retry policy

A failed message whose failure may pass is published again, with its attempt count
raised by one, as long as the count is below a limit; a delay comes first. Any other
failed message is reported as a dead letter. If publishing does not succeed the message
stays unresolved.
-/

namespace Scribe

open Scribe.Delivery
open Scribe.Work

/-- Where failed messages go, and how often they are tried. -/
structure RetryPolicy where
  jobsTopic : String := "stt.jobs"
  deadTopic : String := "stt.jobs.dlq"
  maxAttempts : Nat := 3
  backoff : Backoff := Backoff.standard
  flushTimeout : Time.Span := Time.Span.ofSeconds 10

namespace RetryPolicy

/-- Whether a failure at an attempt gets another try. -/
def retries (policy : RetryPolicy) (failure : Failure) (attempt : Nat) : Bool :=
  failure.retryable && decide (attempt < policy.maxAttempts)

/-- The key to publish under: the id of the job where it can be read, else the key of
the message. -/
def keyOf (message : Broker.Message) (job : Option Json) : Option String :=
  match (job.bind fun value => value.get? "jobId").bind Json.string? with
  | some jobId => some jobId
  | none => message.key

/-- The record that brings a message back with an attempt count. -/
def retryRecord (policy : RetryPolicy) (message : Broker.Message) (key : Option String)
    (attempt : Nat) : Broker.Record :=
  { topic := policy.jobsTopic
    key
    payload := message.payload
    headers := message.headers.set Broker.attemptHeader (Text.decimal attempt) }

/-- The record of a dead letter. -/
def deadRecord (policy : RetryPolicy) (key : Option String) (letter : DeadLetter) :
    Broker.Record :=
  { topic := policy.deadTopic, key, payload := letter.toJson.bytes, headers := [] }

/-- Send a record and wait for its delivery. -/
def publish (timeout : Time.Span) (record : Broker.Record) :
    Errand (Except Broker.Error Unit) := do
  match ← request (.send record) with
  | .error error => return .error error
  | .ok _ => request (.flush timeout)

/-- Bring a message back after a delay. -/
def retry (policy : RetryPolicy) (message : Broker.Message) (key : Option String)
    (failure : Failure) : Errand Disposition := do
  let attempt := message.attempt + 1
  let jitter ← request .drawJitter
  request (.sleep (Backoff.spread (policy.backoff.delay attempt) jitter))
  match ← publish policy.flushTimeout (policy.retryRecord message key attempt) with
  | .error _ => return .unresolved
  | .ok _ => do
      request (.note (.retryScheduled policy.jobsTopic failure.code.name))
      return .retryScheduled

/-- Give a message up. -/
def giveUp (policy : RetryPolicy) (message : Broker.Message) (key : Option String)
    (stage : String) (failure : Failure) (job : Option Json) : Errand Disposition := do
  let now ← request .now
  let letter := DeadLetter.of message stage failure job now
  match ← publish policy.flushTimeout (policy.deadRecord key letter) with
  | .error _ => return .unresolved
  | .ok _ => do
      request (.note (.deadLettered policy.jobsTopic failure.code.name))
      return .deadLettered

/-- Decide what becomes of a failed message; `job` is its payload where that could be
decoded. -/
def handle (policy : RetryPolicy) (message : Broker.Message) (stage : String)
    (failure : Failure) (job : Option Json) : Errand Disposition :=
  let key := keyOf message job
  if policy.retries failure message.attempt then policy.retry message key failure
  else policy.giveUp message key stage failure job

end RetryPolicy

end Scribe
