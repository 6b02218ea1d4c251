import Scribe.Broker.Message
import Scribe.Job.Result

/-!
# Dead letters

A dead letter reports a message that is given up: where it came from, the stage and
the reason of its failure, how often it was tried, and its payload where that could
be decoded. Reading refuses unknown fields; an attempt count that is missing is zero.
-/

namespace Scribe

open Scribe.Json

/-- The report of a message that is given up. -/
structure DeadLetter where
  topic : String
  partition : Int
  offset : Int
  failedAt : Time.Stamp
  failureStage : String
  job : Option Json
  errorCode : String
  errorMessage : String
  attempt : Nat

namespace DeadLetter

/-- The dead letter of a message. -/
def of (message : Broker.Message) (stage : String) (failure : Failure) (job : Option Json)
    (now : Time.Stamp) : DeadLetter :=
  { topic := message.topic
    partition := message.partition
    offset := message.offset
    failedAt := now
    failureStage := stage
    job
    errorCode := failure.code.name
    errorMessage := failure.message
    attempt := message.attempt }

/-- The fields of a dead letter in order. -/
def members (letter : DeadLetter) : List (String × Json) :=
  [("originalTopic", .string letter.topic),
    ("originalPartition", Json.ofInt letter.partition),
    ("originalOffset", Json.ofInt letter.offset),
    ("failedAt", .string letter.failedAt.render),
    ("failureStage", .string letter.failureStage),
    ("job", letter.job.getD .null),
    ("errorCode", .string letter.errorCode),
    ("errorMessage", .string letter.errorMessage),
    ("attempt", Json.ofInt letter.attempt)]

/-- A dead letter as a value. -/
def toJson (letter : DeadLetter) : Json :=
  .object letter.members

/-- A dead letter in its written form. -/
def render (letter : DeadLetter) : String :=
  letter.toJson.render

/-- The names of the fields. -/
def fieldNames : List String :=
  ["originalTopic", "originalPartition", "originalOffset", "failedAt", "failureStage", "job",
    "errorCode", "errorMessage", "attempt"]

/-- A dead letter whose fields have been read in part. -/
structure Draft where
  topic : Option String := none
  partition : Option Int := none
  offset : Option Int := none
  failedAt : Option Time.Stamp := none
  failureStage : Option String := none
  job : Option (Option Json) := none
  errorCode : Option String := none
  errorMessage : Option String := none
  attempt : Option Int := none

/-- Read one field. -/
def Draft.put (draft : Draft) (key : Key) (document : Document) : Decoded Draft :=
  if key.name = "originalTopic" then
    (fillField key draft.topic document.decodeString).map
      ({ draft with topic := · })
  else if key.name = "originalPartition" then
    (fillField key draft.partition
      (document.decodeInt "i32" (-0x80000000) 0x7fffffff)).map
      ({ draft with partition := · })
  else if key.name = "originalOffset" then
    (fillField key draft.offset
      (document.decodeInt "i64" (-0x8000000000000000) 0x7fffffffffffffff)).map
      ({ draft with offset := · })
  else if key.name = "failedAt" then
    (fillField key draft.failedAt (JobResult.decodeInstant document)).map
      ({ draft with failedAt := · })
  else if key.name = "failureStage" then
    (fillField key draft.failureStage document.decodeString).map
      ({ draft with failureStage := · })
  else if key.name = "job" then
    (fillField key draft.job (document.decodeOption Document.decodeJson)).map
      ({ draft with job := · })
  else if key.name = "errorCode" then
    (fillField key draft.errorCode document.decodeString).map ({ draft with errorCode := · })
  else if key.name = "errorMessage" then
    (fillField key draft.errorMessage document.decodeString).map
      ({ draft with errorMessage := · })
  else if key.name = "attempt" then
    (fillField key draft.attempt (document.decodeInt "u32" 0 0xffffffff)).map
      ({ draft with attempt := · })
  else unknownField fieldNames key

/-- The dead letter, if no field is missing that has to be there. -/
def Draft.finish (draft : Draft) : Except Mismatch DeadLetter := do
  let topic ← requireField "originalTopic" draft.topic
  let partition ← requireField "originalPartition" draft.partition
  let offset ← requireField "originalOffset" draft.offset
  let failedAt ← requireField "failedAt" draft.failedAt
  let failureStage ← requireField "failureStage" draft.failureStage
  let errorCode ← requireField "errorCode" draft.errorCode
  let errorMessage ← requireField "errorMessage" draft.errorMessage
  return {
    topic
    partition
    offset
    failedAt
    failureStage
    job := draft.job.join
    errorCode
    errorMessage
    attempt := (draft.attempt.getD 0).toNat }

/-- Read a dead letter from a document. -/
def ofDocument (document : Document) : Decoded DeadLetter :=
  document.decodeRecord "DlqRecord" fieldNames 1 {} Draft.put Draft.finish

/-- Read a dead letter from a value. -/
def ofJson (json : Json) : Decoded DeadLetter :=
  ofDocument (Document.ofJson json)

/-- Whether two values are the same, where nothing is the same only as nothing. -/
def sameJob : Option Json → Option Json → Bool
  | none, none => true
  | some left, some right => left.same right
  | _, _ => false

/-- Whether two dead letters are the same. -/
def same (left right : DeadLetter) : Bool :=
  left.topic == right.topic &&
    left.partition == right.partition &&
    left.offset == right.offset && left.failedAt.sameInstant right.failedAt &&
    left.failureStage == right.failureStage && sameJob left.job right.job &&
    left.errorCode == right.errorCode && left.errorMessage == right.errorMessage &&
    left.attempt == right.attempt

end DeadLetter

end Scribe
