/-!
# Failure codes and stages

A failure code says what went wrong with a job. Some failures can pass, so that
another attempt may help; the others are permanent. A stage says how far the job
had come.
-/

namespace Scribe

/-- What went wrong with a job. -/
inductive FailureCode
  | invalidPayload
  | downloadFailed
  | downloadTimeout
  | audioTooLarge
  | audioTooLong
  | unsupportedFormat
  | transcribeTimeout
  | transcribeFailed
  | modelLoadFailed
  | internalError
deriving DecidableEq, Repr

namespace FailureCode

/-- All codes in their usual order. -/
def all : List FailureCode :=
  [.invalidPayload, .downloadFailed, .downloadTimeout, .audioTooLarge, .audioTooLong,
    .unsupportedFormat, .transcribeTimeout, .transcribeFailed, .modelLoadFailed, .internalError]

/-- The name of a code. -/
def name : FailureCode → String
  | .invalidPayload => "INVALID_PAYLOAD"
  | .downloadFailed => "DOWNLOAD_FAILED"
  | .downloadTimeout => "DOWNLOAD_TIMEOUT"
  | .audioTooLarge => "AUDIO_TOO_LARGE"
  | .audioTooLong => "AUDIO_TOO_LONG"
  | .unsupportedFormat => "UNSUPPORTED_FORMAT"
  | .transcribeTimeout => "TRANSCRIBE_TIMEOUT"
  | .transcribeFailed => "TRANSCRIBE_FAILED"
  | .modelLoadFailed => "MODEL_LOAD_FAILED"
  | .internalError => "INTERNAL_ERROR"

/-- The code with a name. -/
def ofName? (name : String) : Option FailureCode :=
  all.find? fun code => code.name == name

/-- Whether another attempt may help where nothing more is known. -/
def retryableByDefault : FailureCode → Bool
  | .invalidPayload | .audioTooLarge | .audioTooLong | .unsupportedFormat
  | .modelLoadFailed => false
  | _ => true

@[simp] theorem ofName?_name (code : FailureCode) : ofName? code.name = some code := by
  cases code <;> rfl

end FailureCode

/-- How far a job had come when it failed. -/
inductive Stage
  | validation
  | download
  | transcribe
  | publish
deriving DecidableEq, Repr

namespace Stage

/-- All stages in order. -/
def all : List Stage := [.validation, .download, .transcribe, .publish]

/-- The name of a stage. -/
def name : Stage → String
  | .validation => "VALIDATION"
  | .download => "DOWNLOAD"
  | .transcribe => "TRANSCRIBE"
  | .publish => "PUBLISH"

/-- The stage with a name. -/
def ofName? (name : String) : Option Stage :=
  all.find? fun stage => stage.name == name

end Stage

end Scribe
