import Scribe.Config.Settings
import Scribe.View.Value

/-!
# Views of settings
-/

namespace Scribe.View

open Scribe.Config

/-- An environment from its variables. -/
def environmentOf (json : Json) : Environment :=
  ⟨json.members.filterMap fun entry => (bytes? entry.2).map fun value => (entry.1, value)⟩

/-- Settings, one by one. -/
def settings (settings : Settings) : Json :=
  object [("environment", .string settings.deployment.name),
    ("log_level", .string settings.logLevel),
    ("redis", .string settings.streamAddress),
    ("consumer_group", .string settings.group),
    ("consumer_name", .ofOption settings.consumer),
    ("claim_idle", span settings.claimIdle),
    ("jobs_topic", .string settings.jobsTopic),
    ("results_topic", .string settings.resultsTopic),
    ("dlq_topic", .string settings.deadTopic),
    ("concurrency", count settings.concurrency),
    ("queue_capacity", count settings.queueCapacity),
    ("max_attempts", count settings.maxAttempts),
    ("retry_backoff_base_ms", count settings.retryBase),
    ("retry_backoff_max_ms", count settings.retryMax),
    ("download_timeout", span settings.downloadTimeout),
    ("download_retries", count settings.downloadRetries),
    ("download_backoff", span settings.downloadPause),
    ("transcribe_timeout", span settings.transcribeTimeout),
    ("max_audio_bytes", count settings.maxBytes),
    ("max_audio_duration_secs", bits settings.maxSeconds),
    ("engine", .string settings.engine.name),
    ("enable_fallback", .bool settings.fallbackEnabled),
    ("default_language", .string settings.language),
    ("conformer_url", .string settings.conformer),
    ("asr_model_id", .string settings.modelId),
    ("asr_decoding", .string settings.decoding),
    ("whisper_url", .string settings.whisper),
    ("model_size", .string settings.modelSize),
    ("health_port", count settings.healthPort),
    ("metrics_port", count settings.metricsPort),
    ("tmp_dir", .string settings.directory),
    ("ffmpeg_bin", .string settings.converter),
    ("dedup_ttl", span settings.dedupLifetime),
    ("dedup_capacity", count settings.dedupCapacity)]

end Scribe.View
