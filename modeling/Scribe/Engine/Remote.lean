import Scribe.Engine.Selector
import Scribe.Http.Reply
import Scribe.Json.Decode

/-!
# Engines behind servers

Each kind of engine is a server. It is healthy if it grants a request for its health, and
it transcribes a recording that is posted to it: the conformer takes the wave itself with
the language in the address, the whisper engine takes a form.
-/

namespace Scribe

open Scribe.Http
open Scribe.Json (Decoded Document Key Mismatch fillField requireField)
open Scribe.Text

/-- Where the engines are, and what they are asked for. -/
structure EngineServers where
  conformer : String
  whisper : String
  modelId : String := "ai4bharat/indic-conformer-600m-multilingual"
  decoding : String := "rnnt"
  modelSize : String := "small"
  checkTimeout : Time.Span := Time.Span.ofSeconds 10

/-- What an engine says about a recording. -/
structure Reading where
  text : String
  language : Option String
  confidence : Option Float

namespace Reading

/-- A reading whose fields have been read in part. -/
structure Draft where
  text : Option String := none
  language : Option (Option String) := none
  confidence : Option (Option Float) := none

/-- Read one field; the confidence has a name of its own for each kind of engine. A field
of another name may hold anything. -/
def Draft.put (confidenceName : String) (draft : Draft) (key : Key) (document : Document) :
    Decoded Draft :=
  if key.name = "text" then
    (fillField key draft.text document.decodeString).map ({ draft with text := · })
  else if key.name = "language" then
    (fillField key draft.language (document.decodeOption Document.decodeString)).map
      ({ draft with language := · })
  else if key.name = confidenceName then
    (fillField key draft.confidence (document.decodeOption Document.decodeFloat)).map
      ({ draft with confidence := · })
  else document.decodeJson.map fun _ => draft

/-- The reading, which has to have a text. -/
def Draft.finish (draft : Draft) : Except Mismatch Reading := do
  let text ← requireField "text" draft.text
  return ⟨text, draft.language.join, draft.confidence.join⟩

/-- Read a reading. -/
def ofDocument (confidenceName : String) : Document → Decoded Reading :=
  Document.decodeRecord "Reading" ["text", "language", confidenceName] 2 {}
    (Draft.put confidenceName) Draft.finish

end Reading

namespace EngineKind

/-- The name of the confidence in what an engine says. -/
def confidenceName : EngineKind → String
  | .conformer => "confidence"
  | .whisper => "language_probability"

/-- How an engine is spoken of when it refuses a request. -/
def shortName : EngineKind → String
  | .conformer => "conformer"
  | .whisper => "faster-whisper"

/-- The failure of a request to an engine. -/
def requestFailure (kind : EngineKind) (fault : Fault) : Failure :=
  if fault.isLate then .of .transcribeTimeout (kind.name ++ " timed out: " ++ fault.message)
  else .of .transcribeFailed (kind.name ++ " request failed: " ++ fault.message)

/-- The failure of an engine that cannot be used. -/
def loadFailure (kind : EngineKind) (reason : String) : Failure :=
  .of .modelLoadFailed (kind.name ++ " failed to initialize: " ++ reason)

/-- Whether an engine is healthy, from the reply to the request for its health. -/
def health (kind : EngineKind) : Except Fault Reply → Except Failure Unit
  | .error fault => .error (kind.loadFailure fault.message)
  | .ok reply =>
      if reply.isSuccess then .ok ()
      else .error (kind.loadFailure ("health check returned HTTP " ++ decimal reply.status))

/-- The failure of a request that an engine has not granted, with what it says about it. -/
def refusal (kind : EngineKind) (reply : Reply) : Failure :=
  let detail := (reply.body.toOption.map lossy).getD ""
  .of .transcribeFailed
    (kind.shortName ++ " returned HTTP " ++ decimal reply.status ++ ": " ++ detail)

/-- The reading in a reply. -/
def reading (kind : EngineKind) (reply : Reply) : Except Fault Reading := do
  let body ← reply.body
  match Json.readAs (Reading.ofDocument kind.confidenceName) body with
  | .ok reading => return reading
  | .error _ => throw (.broken false)

/-- The transcript in the reply of an engine that was asked for a language. The conformer
is taken to have heard that language where it names none. -/
def transcript (kind : EngineKind) (language : String) :
    Except Fault Reply → Except Failure Transcript
  | .error fault => .error (kind.requestFailure fault)
  | .ok reply =>
      if !reply.isSuccess then .error (kind.refusal reply)
      else
        match kind.reading reply with
        | .error fault => .error (kind.requestFailure fault)
        | .ok reading =>
            let heard :=
              match kind with
              | .conformer => reading.language.or (some language)
              | .whisper => reading.language
            .ok (Transcript.of reading.text heard reading.confidence)

end EngineKind

namespace EngineServers

/-- The address of an engine. -/
def base (servers : EngineServers) : EngineKind → String
  | .conformer => servers.conformer
  | .whisper => servers.whisper

/-- An address under that of an engine. -/
def under (servers : EngineServers) (kind : EngineKind) (path : String) : String :=
  String.ofList ((servers.base kind).toList.reverse.dropWhile (· == '/')).reverse ++ path

/-- The version of the model of an engine. -/
def version (servers : EngineServers) : EngineKind → String
  | .conformer => servers.modelId
  | .whisper => "faster-whisper-" ++ servers.modelSize

/-- The engine of a kind. -/
def engine (servers : EngineServers) (kind : EngineKind) : Engine :=
  ⟨kind, servers.version kind⟩

/-- The request for the health of an engine. -/
def healthRequest (servers : EngineServers) (kind : EngineKind) : Except Fault Request :=
  Request.make .get (servers.under kind "/health") [] .empty

/-- The form that the whisper engine takes. -/
def formOf (servers : EngineServers) (language : String) (wave : ByteArray) : Content :=
  .form [
    { name := "file", fileName := some "audio.wav", contentType := some "audio/wav",
      content := wave },
    { name := "model", content := utf8 servers.modelSize },
    { name := "language", content := utf8 language },
    { name := "response_format", content := utf8 "verbose_json" }]

/-- The request for a transcript. -/
def transcriptionRequest (servers : EngineServers) (kind : EngineKind) (language : String)
    (wave : ByteArray) : Except Fault Request :=
  match kind with
  | .conformer =>
      Request.make .post (servers.under kind "/v1/transcribe")
        [("language", language), ("decoding", servers.decoding)] (.bytes "audio/wav" wave)
  | .whisper =>
      Request.make .post (servers.under kind "/v1/audio/transcriptions") []
        (servers.formOf language wave)

end EngineServers

end Scribe
