import Scribe.Failure.Basic
import Scribe.Json.Decode
import Scribe.Json.Reader
import Scribe.Time.Stamp
import Scribe.Url.Basic

/-!
# Jobs

A job asks for the transcript of a recording at an address. It is read from a JSON
object with six declared attributes, of which two may be absent or null; any other
attribute is kept as it is. A payload that is no job is an invalid payload, which no
further attempt can mend.
-/

namespace Scribe

open Scribe.Json

/-- A transcription job. -/
structure Job where
  jobId : String
  taskId : String
  audioUrl : String
  languageHint : Option String
  createdAt : Time.Stamp
  correlationId : Option String
  extra : List (String × Json)

namespace Job

/-- The declared attributes. -/
def declared : List String :=
  ["jobId", "taskId", "audioUrl", "languageHint", "createdAt", "correlationId"]

/-- A value as what it is met as. -/
def found : Json → Found
  | .null => .null
  | .bool value => .bool value
  | .number value => .number value
  | .string value => .string value
  | .array _ => .sequence
  | .object _ => .map

/-- A text attribute. -/
def readText : Json → Except Mismatch String
  | .string text => .ok text
  | other => .error (.kind (found other) "a string")

/-- A text attribute that may be null. -/
def readOptionalText : Json → Except Mismatch (Option String)
  | .null => .ok none
  | other => (readText other).map some

/-- What a time stamp is called where one is expected. -/
def stampPhrase : String := "an RFC 3339 formatted date and time string"

/-- Read a time stamp from its text. -/
def stampOfText (text : String) : Except Mismatch Time.Stamp :=
  match Time.Stamp.parse text with
  | .ok stamp => .ok stamp
  | .error fault => .error (.malformed fault.message)

/-- A time stamp attribute. -/
def readStamp : Json → Except Mismatch Time.Stamp
  | .string text => stampOfText text
  | other => .error (.kind (found other) stampPhrase)

/-- A job whose attributes have been read in part. -/
structure Draft where
  jobId : Option String := none
  taskId : Option String := none
  audioUrl : Option String := none
  languageHint : Option String := none
  createdAt : Option Time.Stamp := none
  correlationId : Option String := none
  extra : List (String × Json) := []

/-- Read one attribute. -/
def Draft.put (draft : Draft) (name : String) (value : Json) : Except Mismatch Draft :=
  if name = "jobId" then (readText value).map fun text => { draft with jobId := some text }
  else if name = "taskId" then (readText value).map fun text => { draft with taskId := some text }
  else if name = "audioUrl" then
    (readText value).map fun text => { draft with audioUrl := some text }
  else if name = "languageHint" then
    (readOptionalText value).map fun text => { draft with languageHint := text }
  else if name = "createdAt" then
    (readStamp value).map fun stamp => { draft with createdAt := some stamp }
  else if name = "correlationId" then
    (readOptionalText value).map fun text => { draft with correlationId := text }
  else .ok { draft with extra := draft.extra ++ [(name, value)] }

/-- Read attributes in order, up to the first that is of the wrong kind. -/
def Draft.putAll : Draft → List (String × Json) → Except Mismatch Draft
  | draft, [] => .ok draft
  | draft, (name, value) :: rest =>
      match draft.put name value with
      | .error mismatch => .error mismatch
      | .ok draft => draft.putAll rest

/-- The job, if no attribute is missing that has to be there. -/
def Draft.finish (draft : Draft) : Except Mismatch Job := do
  let jobId ← requireField "jobId" draft.jobId
  let taskId ← requireField "taskId" draft.taskId
  let audioUrl ← requireField "audioUrl" draft.audioUrl
  let createdAt ← requireField "createdAt" draft.createdAt
  return {
    jobId
    taskId
    audioUrl
    languageHint := draft.languageHint
    createdAt
    correlationId := draft.correlationId
    extra := draft.extra }

/-- Bind a value to a job without looking at its address. -/
def bind : Json → Except Mismatch Job
  | .object members =>
      match (Draft.mk none none none none none none []).putAll members with
      | .error mismatch => .error mismatch
      | .ok draft => draft.finish
  | other => .error (.kind (found other) "struct Job")

/-- Why an address cannot be fetched from. -/
inductive AddressFault
  | malformed (fault : Url.UrlFault)
  | scheme (address : String)
deriving DecidableEq, Repr

/-- The wording of an address fault. -/
def AddressFault.message : AddressFault → String
  | .malformed fault => "audioUrl is not a valid URL: " ++ fault.message
  | .scheme address => "audioUrl must be an http(s) URL, got " ++ address

/-- Check that an address has a host that is reached by one of two schemes. -/
def checkAddress (address : String) : Except AddressFault Unit :=
  match Url.parse address with
  | .error fault => .error (.malformed fault)
  | .ok url =>
      if (url.scheme = "http" ∨ url.scheme = "https") ∧ url.host.isSome then .ok ()
      else .error (.scheme address)

/-- The failure of a payload that is not what it should be. -/
def invalid (message : String) : Failure :=
  .of .invalidPayload message

/-- Read a job from a value. -/
def ofJson (json : Json) : Except Failure Job :=
  match bind json with
  | .error mismatch => .error (invalid mismatch.message)
  | .ok job =>
      match checkAddress job.audioUrl with
      | .error fault => .error (invalid fault.message)
      | .ok _ => .ok job

/-- Read a payload as a value. -/
def decodePayload (payload : ByteArray) : Except Failure Json :=
  if payload.size = 0 then .error (invalid "Empty payload")
  else
    match Json.read payload with
    | .ok json => .ok json
    | .error fault => .error (invalid (fault.report payload))

/-- Read a job from a payload. -/
def parse (payload : ByteArray) : Except Failure Job :=
  match decodePayload payload with
  | .error failure => .error failure
  | .ok json => ofJson json

/-- A member that is left out where there is no text. -/
def optionalMember (name : String) : Option String → List (String × Json)
  | none => []
  | some text => [(name, .string text)]

/-- The attributes of a job, the declared ones first. -/
def members (job : Job) : List (String × Json) :=
  [("jobId", .string job.jobId), ("taskId", .string job.taskId),
    ("audioUrl", .string job.audioUrl)] ++
  optionalMember "languageHint" job.languageHint ++
  [("createdAt", .string job.createdAt.render)] ++
  optionalMember "correlationId" job.correlationId ++
  job.extra

/-- A job as a value, ordered by attribute. -/
def toJson (job : Job) : Json :=
  Json.ofMembers job.members

/-- A job in its written form. -/
def render (job : Job) : String :=
  (Json.object job.members).render

/-- Whether two jobs are the same, where time stamps count as instants. -/
def same (left right : Job) : Bool :=
  left.jobId == right.jobId && left.taskId == right.taskId &&
    left.audioUrl == right.audioUrl && left.languageHint == right.languageHint &&
    left.createdAt.sameInstant right.createdAt &&
    left.correlationId == right.correlationId && sameMembers left.extra right.extra

end Job

end Scribe
