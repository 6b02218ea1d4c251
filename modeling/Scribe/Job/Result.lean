import Scribe.Engine.Transcript
import Scribe.Job.Basic

/-!
# Results

A result reports that a job was completed or has failed for good. Its written form
has all its fields, null where there is nothing to say; reading refuses any other
field.
-/

namespace Scribe

open Scribe.Json

/-- How a job ended. -/
inductive ResultStatus
  | completed
  | failed
deriving DecidableEq, Repr

/-- The name of a status. -/
def ResultStatus.name : ResultStatus → String
  | .completed => "COMPLETED"
  | .failed => "FAILED"

/-- The status with a name. -/
def ResultStatus.ofName? (name : String) : Option ResultStatus :=
  [.completed, .failed].find? fun (status : ResultStatus) => status.name == name

/-- The end of a job. -/
structure JobResult where
  jobId : String
  taskId : String
  status : ResultStatus
  transcriptText : Option String
  detectedLanguage : Option String
  confidence : Option Float
  engine : String
  modelVersion : String
  errorCode : Option FailureCode
  errorMessage : Option String
  completedAt : Time.Stamp
  correlationId : Option String

namespace JobResult

/-- The result of a job that was transcribed. -/
def completed (job : Job) (transcript : Transcript) (engine modelVersion : String)
    (now : Time.Stamp) : JobResult :=
  { jobId := job.jobId
    taskId := job.taskId
    status := .completed
    transcriptText := transcript.text
    detectedLanguage := transcript.language
    confidence := transcript.confidence
    engine
    modelVersion
    errorCode := none
    errorMessage := none
    completedAt := now
    correlationId := job.correlationId }

/-- The result of a job that failed for good. -/
def failed (job : Job) (failure : Failure) (engine modelVersion : String)
    (now : Time.Stamp) : JobResult :=
  { jobId := job.jobId
    taskId := job.taskId
    status := .failed
    transcriptText := none
    detectedLanguage := none
    confidence := none
    engine
    modelVersion
    errorCode := some failure.code
    errorMessage := some failure.message
    completedAt := now
    correlationId := job.correlationId }

/-! ## Writing -/

/-- A double as a value; one that is not finite is null. -/
def ofFloat (value : Float) : Json :=
  if Decimal.isFinite value then .number (.real value) else .null

/-- The fields of a result in order. -/
def members (result : JobResult) : List (String × Json) :=
  [("jobId", .string result.jobId),
    ("taskId", .string result.taskId),
    ("status", .string result.status.name),
    ("transcriptText", Json.ofOption result.transcriptText),
    ("detectedLanguage", Json.ofOption result.detectedLanguage),
    ("confidence", (result.confidence.map ofFloat).getD .null),
    ("engine", .string result.engine),
    ("modelVersion", .string result.modelVersion),
    ("errorCode", Json.ofOption (result.errorCode.map FailureCode.name)),
    ("errorMessage", Json.ofOption result.errorMessage),
    ("completedAt", .string result.completedAt.render),
    ("correlationId", Json.ofOption result.correlationId)]

/-- A result as a value. -/
def toJson (result : JobResult) : Json :=
  .object result.members

/-- A result in its written form. -/
def render (result : JobResult) : String :=
  result.toJson.render

/-! ## Reading -/

/-- The names of the fields. -/
def fieldNames : List String :=
  ["jobId", "taskId", "status", "transcriptText", "detectedLanguage", "confidence", "engine",
    "modelVersion", "errorCode", "errorMessage", "completedAt", "correlationId"]

/-- A result whose fields have been read in part. -/
structure Draft where
  jobId : Option String := none
  taskId : Option String := none
  status : Option ResultStatus := none
  transcriptText : Option (Option String) := none
  detectedLanguage : Option (Option String) := none
  confidence : Option (Option Float) := none
  engine : Option String := none
  modelVersion : Option String := none
  errorCode : Option (Option FailureCode) := none
  errorMessage : Option (Option String) := none
  completedAt : Option Time.Stamp := none
  correlationId : Option (Option String) := none

/-- A time stamp, turned to universal time. -/
def decodeInstant (document : Document) : Decoded Time.Stamp :=
  (document.decodeText Job.stampPhrase Job.stampOfText).map Time.Stamp.toUniversal

/-- A status. -/
def decodeStatus : Document → Decoded ResultStatus :=
  Document.decodeVariant ["COMPLETED", "FAILED"] ResultStatus.ofName?

/-- A failure code. -/
def decodeCode : Document → Decoded FailureCode :=
  Document.decodeVariant (FailureCode.all.map FailureCode.name) FailureCode.ofName?

/-- Text or null. -/
def decodeOptionalText : Document → Decoded (Option String) :=
  Document.decodeOption Document.decodeString

/-- Read one field. -/
def Draft.put (draft : Draft) (key : Key) (document : Document) : Decoded Draft :=
  if key.name = "jobId" then
    (fillField key draft.jobId document.decodeString).map ({ draft with jobId := · })
  else if key.name = "taskId" then
    (fillField key draft.taskId document.decodeString).map ({ draft with taskId := · })
  else if key.name = "status" then
    (fillField key draft.status (decodeStatus document)).map ({ draft with status := · })
  else if key.name = "transcriptText" then
    (fillField key draft.transcriptText (decodeOptionalText document)).map
      ({ draft with transcriptText := · })
  else if key.name = "detectedLanguage" then
    (fillField key draft.detectedLanguage (decodeOptionalText document)).map
      ({ draft with detectedLanguage := · })
  else if key.name = "confidence" then
    (fillField key draft.confidence (document.decodeOption Document.decodeFloat)).map
      ({ draft with confidence := · })
  else if key.name = "engine" then
    (fillField key draft.engine document.decodeString).map ({ draft with engine := · })
  else if key.name = "modelVersion" then
    (fillField key draft.modelVersion document.decodeString).map ({ draft with modelVersion := · })
  else if key.name = "errorCode" then
    (fillField key draft.errorCode (document.decodeOption decodeCode)).map
      ({ draft with errorCode := · })
  else if key.name = "errorMessage" then
    (fillField key draft.errorMessage (decodeOptionalText document)).map
      ({ draft with errorMessage := · })
  else if key.name = "completedAt" then
    (fillField key draft.completedAt (decodeInstant document)).map ({ draft with completedAt := · })
  else if key.name = "correlationId" then
    (fillField key draft.correlationId (decodeOptionalText document)).map
      ({ draft with correlationId := · })
  else unknownField fieldNames key

/-- The result, if no field is missing that has to be there. -/
def Draft.finish (draft : Draft) : Except Mismatch JobResult := do
  let jobId ← requireField "jobId" draft.jobId
  let taskId ← requireField "taskId" draft.taskId
  let status ← requireField "status" draft.status
  let engine ← requireField "engine" draft.engine
  let modelVersion ← requireField "modelVersion" draft.modelVersion
  let completedAt ← requireField "completedAt" draft.completedAt
  return {
    jobId
    taskId
    status
    transcriptText := draft.transcriptText.join
    detectedLanguage := draft.detectedLanguage.join
    confidence := draft.confidence.join
    engine
    modelVersion
    errorCode := draft.errorCode.join
    errorMessage := draft.errorMessage.join
    completedAt
    correlationId := draft.correlationId.join }

/-- Read a result from a document. -/
def ofDocument (document : Document) : Decoded JobResult :=
  document.decodeRecord "TranscriptionResult" fieldNames 0 {} Draft.put Draft.finish

/-- Read a result from a value. -/
def ofJson (json : Json) : Decoded JobResult :=
  ofDocument (Document.ofJson json)

/-- Whether two results are the same. -/
def same (left right : JobResult) : Bool :=
  left.jobId == right.jobId && left.taskId == right.taskId && left.status == right.status &&
    left.transcriptText == right.transcriptText &&
    left.detectedLanguage == right.detectedLanguage && left.confidence == right.confidence &&
    left.engine == right.engine && left.modelVersion == right.modelVersion &&
    left.errorCode == right.errorCode && left.errorMessage == right.errorMessage &&
    left.completedAt.sameInstant right.completedAt && left.correlationId == right.correlationId

end JobResult

end Scribe
