import Scribe.Config.Environment
import Scribe.Engine.Kind
import Scribe.Time.Seconds

/-!
# Settings

The settings of a worker. Each of them comes from a variable of its own and has a default.
Of several variables that cannot be read, the first in a fixed order is reported: the pause
between downloads comes before all others.
-/

namespace Scribe.Config

open Scribe.Text

/-- The settings of a worker. -/
structure Settings where
  deployment : Deployment
  logLevel : String
  streamAddress : String
  group : String
  /-- The name of the consumer; without it one is drawn at random. -/
  consumer : Option String
  claimIdle : Time.Span
  jobsTopic : String
  resultsTopic : String
  deadTopic : String
  concurrency : Nat
  queueCapacity : Nat
  maxAttempts : Nat
  retryBase : Nat
  retryMax : Nat
  downloadTimeout : Time.Span
  downloadRetries : Nat
  downloadPause : Time.Span
  transcribeTimeout : Time.Span
  maxBytes : Nat
  maxSeconds : Float
  engine : EngineKind
  fallbackEnabled : Bool
  language : String
  conformer : String
  modelId : String
  decoding : String
  whisper : String
  modelSize : String
  healthPort : Nat
  metricsPort : Nat
  directory : String
  converter : String
  dedupLifetime : Time.Span
  dedupCapacity : Nat

namespace Settings

/-- The shortest pause between downloads, in seconds. -/
def shortestPause : Float := 0.1

/-- The variable of the pause between downloads. -/
def pauseVariable : String := "AUDIO_DOWNLOAD_BACKOFF_SEC"

/-- A pause in seconds, raised to the shortest one; what is no number is raised as well. -/
def raisePause (seconds : Float) : Float :=
  if seconds > shortestPause then seconds else shortestPause

/-- The span of a pause. -/
def pauseSpan (seconds : Float) : Except ConfigFault Time.Span :=
  match Time.Span.ofFloat (raisePause seconds) with
  | .ok span => .ok span
  | .error fault => .error (.invalid pauseVariable fault.message)

/-- The name of the consumer, unless it is blank. -/
def consumerName (environment : Environment) : Option String :=
  (environment.get? "CONSUMER_NAME").filter fun name => trim name != ""

/-- The group of consumers, which has two variables. -/
def groupName (environment : Environment) : String :=
  ((environment.get? "KAFKA_GROUP_ID").or (environment.get? "CONSUMER_GROUP")).getD "stt-worker"

/-- The variables that settings come from and that can be refused. -/
def checkedVariables : List String :=
  [pauseVariable, "REDIS_URL", "CLAIM_IDLE_SECS", "WORKER_CONCURRENCY", "WORKER_QUEUE_MAX",
    "MAX_ATTEMPTS", "RETRY_BACKOFF_BASE_MS", "RETRY_BACKOFF_MAX_MS", "AUDIO_DOWNLOAD_TIMEOUT",
    "AUDIO_DOWNLOAD_RETRIES", "TRANSCRIBE_TIMEOUT", "MAX_AUDIO_BYTES", "MAX_AUDIO_DURATION_SEC",
    "HEALTH_PORT", "METRICS_PORT", "DEDUP_TTL_SECS", "DEDUP_CAPACITY"]

/-- The variables that settings come from and that are taken as they are. -/
def freeVariables : List String :=
  ["APP_ENV", "LOG_LEVEL", "KAFKA_GROUP_ID", "CONSUMER_GROUP", "CONSUMER_NAME", "STT_JOBS_TOPIC",
    "STT_RESULTS_TOPIC", "STT_DLQ_TOPIC", "STT_ENGINE", "STT_ENABLE_FALLBACK", "STT_DEFAULT_LANG",
    "CONFORMER_URL", "ASR_MODEL_ID", "ASR_DECODING", "WHISPER_URL", "MODEL_SIZE", "TMP_DIR",
    "FFMPEG_BIN"]

/-- Take the settings from an environment. -/
def load (environment : Environment) : Except ConfigFault Settings := do
  let word (name : String) (fallback : Nat) := environment.read name (.natural max64) fallback
  let half (name : String) (fallback : Nat) := environment.read name (.natural max32) fallback
  let port (name : String) (fallback : Nat) := environment.read name (.natural max16) fallback
  let pause ← environment.read pauseVariable .float 0.5
  let streamAddress ← environment.streamAddress
  let claimIdle ← word "CLAIM_IDLE_SECS" 300
  let concurrency ← word "WORKER_CONCURRENCY" 1
  let queueCapacity ← word "WORKER_QUEUE_MAX" 4
  let maxAttempts ← half "MAX_ATTEMPTS" 3
  let retryBase ← word "RETRY_BACKOFF_BASE_MS" 500
  let retryMax ← word "RETRY_BACKOFF_MAX_MS" 5000
  let downloadTimeout ← word "AUDIO_DOWNLOAD_TIMEOUT" 30
  let downloadRetries ← half "AUDIO_DOWNLOAD_RETRIES" 2
  let downloadPause ← pauseSpan pause
  let transcribeTimeout ← word "TRANSCRIBE_TIMEOUT" 120
  let maxBytes ← word "MAX_AUDIO_BYTES" 26214400
  let maxSeconds ← environment.read "MAX_AUDIO_DURATION_SEC" .float 600.0
  let healthPort ← port "HEALTH_PORT" 8081
  let metricsPort ← port "METRICS_PORT" 9108
  let dedupLifetime ← word "DEDUP_TTL_SECS" 3600
  let dedupCapacity ← word "DEDUP_CAPACITY" 10000
  return {
    deployment := environment.deployment
    logLevel := environment.textOr "LOG_LEVEL" "INFO"
    streamAddress
    group := groupName environment
    consumer := consumerName environment
    claimIdle := Time.Span.ofSeconds (max claimIdle 1)
    jobsTopic := environment.textOr "STT_JOBS_TOPIC" "stt.jobs"
    resultsTopic := environment.textOr "STT_RESULTS_TOPIC" "stt.results"
    deadTopic := environment.textOr "STT_DLQ_TOPIC" "stt.jobs.dlq"
    concurrency := max concurrency 1
    queueCapacity := max queueCapacity 1
    maxAttempts
    retryBase
    retryMax
    downloadTimeout := Time.Span.ofSeconds downloadTimeout
    downloadRetries
    downloadPause
    transcribeTimeout := Time.Span.ofSeconds transcribeTimeout
    maxBytes
    maxSeconds
    engine := EngineKind.ofSetting (environment.textOr "STT_ENGINE" "indic-conformer")
    fallbackEnabled := environment.flag "STT_ENABLE_FALLBACK" true
    language := environment.textOr "STT_DEFAULT_LANG" "mr"
    conformer := environment.textOr "CONFORMER_URL" "http://127.0.0.1:9000"
    modelId := environment.textOr "ASR_MODEL_ID" "ai4bharat/indic-conformer-600m-multilingual"
    decoding := environment.textOr "ASR_DECODING" "rnnt"
    whisper := environment.textOr "WHISPER_URL" "http://127.0.0.1:9001"
    modelSize := environment.textOr "MODEL_SIZE" "small"
    healthPort
    metricsPort
    directory := environment.textOr "TMP_DIR" "/tmp/stt"
    converter := environment.textOr "FFMPEG_BIN" "ffmpeg"
    dedupLifetime := Time.Span.ofSeconds dedupLifetime
    dedupCapacity }

end Settings

end Scribe.Config
