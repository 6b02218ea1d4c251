import Scribe.Broker.Error
import Scribe.Broker.Message
import Scribe.Engine.Transcript
import Scribe.Failure.Basic
import Scribe.View.Value

/-!
# Views of messages and failures

What a worker takes and gives, and what goes wrong with it. The moment at which a report
was made is hidden in a record that is shown, so that two runs can be compared.
-/

namespace Scribe.View

/-! ## Messages -/

/-- Headers. -/
def headers (headers : Broker.Headers) : Json :=
  object (headers.map fun entry => (entry.1, .string entry.2))

/-- The headers of a message or record. -/
def headersAt (json : Json) : Broker.Headers :=
  .ofList ((json.field "headers").members.filterMap fun entry =>
    entry.2.string?.map fun text => (entry.1, text))

/-- A message. -/
def message (message : Broker.Message) : Json :=
  object [("topic", .string message.topic), ("partition", .ofInt message.partition),
    ("offset", .ofInt message.offset), ("key", .ofOption message.key),
    ("payload", bytes message.payload), ("headers", headers message.headers),
    ("id", .string message.id)]

/-- A message from its view. -/
def messageOf (json : Json) : Broker.Message where
  topic := json.textAt "topic" "stt.jobs"
  partition := json.intAt "partition" 0
  offset := json.intAt "offset" 0
  key := json.textAt? "key"
  payload := bytesAt json "payload"
  headers := headersAt json
  id := json.textAt "id" "0-0"

/-- A record to be sent to a topic, unless it names another. -/
def recordOf (json : Json) (topic : String) : Broker.Record :=
  ⟨json.textAt "topic" topic, json.textAt? "key", bytesAt json "payload", headersAt json⟩

/-- A report without the moment at which it was made. -/
def hideMoment (text : String) : String :=
  match Json.read text.toUTF8 with
  | .error _ => text
  | .ok report => ["completedAt", "failedAt"].foldl (fun text key =>
      match report.textAt? key with
      | some stamp => if stamp.endsWith "Z" then text.replace stamp "<now>" else text
      | none => text) text

/-- A record that was sent. -/
def sent (record : Broker.Record) : Json :=
  let value :=
    match Text.ofUtf8? record.payload with
    | some text => .string (if record.headers.isEmpty then hideMoment text else text)
    | none => bytes record.payload
  object [("topic", .string record.topic), ("key", .ofOption record.key), ("value", value),
    ("headers", headers record.headers)]

/-! ## Failures -/

/-- An error of a kind. -/
def error (kind message : String) : Json :=
  object [("error", .string kind), ("message", .string message)]

/-- A failure. -/
def failed (failure : Failure) : Json :=
  object [("error", .string failure.code.name), ("message", .string failure.message),
    ("retryable", .bool failure.retryable)]

/-- A failure, if the view is one of a failure. -/
def failure? (json : Json) : Option Failure :=
  ((json.textAt? "error").bind FailureCode.ofName?).map fun code =>
    ⟨code, json.textAt "message" "boom", json.boolAt "retryable" code.retryableByDefault⟩

/-- A failure, or else some failure. -/
def failureOf (json : Json) : Failure := (failure? json).getD (.of .internalError "boom")

/-- A failure where there is one, else a value. -/
def failing {α : Type} (shown : α → Json) : Except Failure α → Json
  | .ok value => shown value
  | .error found => failed found

/-- A failure where the view is one of a failure, else a value. -/
def failingOr {α : Type} (json : Json) (value : α) : Except Failure α :=
  match failure? json with
  | some failure => .error failure
  | none => .ok value

/-- The kind of a broker error. -/
def brokerKind : Broker.Error → String
  | .server _ => "Redis"
  | .endOfPartition _ _ => "PartitionEof"
  | .serialization _ => "Serialization"
  | .flushTimeout _ => "FlushTimeout"
  | .closed => "Closed"
  | .other _ => "Other"

/-- A broker error. -/
def brokerError (found : Broker.Error) : Json := error (brokerKind found) found.message

/-- A broker error where there is one, else that all is well. -/
def done : Except Broker.Error Unit → Json
  | .ok _ => .string "ok"
  | .error found => brokerError found

/-- What a poll has brought. -/
def polled : Except Broker.Error (Option Broker.Message) → Json
  | .ok found => optional message found
  | .error found => brokerError found

/-! ## Transcripts -/

/-- A transcript. -/
def transcript (heard : Transcript) : Json :=
  object [("text", .ofOption heard.text), ("language", .ofOption heard.language),
    ("confidence", optional bits heard.confidence)]

/-- A transcript from its view. -/
def transcriptOf (json : Json) : Transcript :=
  .of (json.textAt "text" "hello world") (json.textAt? "language")
    (float? (json.field "confidence"))

end Scribe.View
