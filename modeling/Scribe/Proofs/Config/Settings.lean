import Scribe.Proofs.Config.Checks
import Scribe.Proofs.Outcome

/-!
# Settings and their variables

Taking the settings from an environment is a row of steps, each of them judged by a variable's own
check.  The pause between downloads is checked twice, first as a decimal and later as a span.
What is taken is a table: each setting is read from its variables, and no variable has to do with
two settings.
-/

namespace Scribe.Config

open Scribe.Text

/-! ## What is checked -/

/-- The variables that can be refused, with their rules. -/
def checks : List Check :=
  [⟨Settings.pauseVariable, .pause⟩, ⟨"REDIS_URL", .address⟩,
    ⟨"CLAIM_IDLE_SECS", .natural max64⟩, ⟨"WORKER_CONCURRENCY", .natural max64⟩,
    ⟨"WORKER_QUEUE_MAX", .natural max64⟩, ⟨"MAX_ATTEMPTS", .natural max32⟩,
    ⟨"RETRY_BACKOFF_BASE_MS", .natural max64⟩, ⟨"RETRY_BACKOFF_MAX_MS", .natural max64⟩,
    ⟨"AUDIO_DOWNLOAD_TIMEOUT", .natural max64⟩, ⟨"AUDIO_DOWNLOAD_RETRIES", .natural max32⟩,
    ⟨"TRANSCRIBE_TIMEOUT", .natural max64⟩, ⟨"MAX_AUDIO_BYTES", .natural max64⟩,
    ⟨"MAX_AUDIO_DURATION_SEC", .float⟩, ⟨"HEALTH_PORT", .natural max16⟩,
    ⟨"METRICS_PORT", .natural max16⟩, ⟨"DEDUP_TTL_SECS", .natural max64⟩,
    ⟨"DEDUP_CAPACITY", .natural max64⟩]

/-- The checks in the order in which they are made. -/
def steps : List Check :=
  [⟨Settings.pauseVariable, .float⟩, ⟨"REDIS_URL", .address⟩,
    ⟨"CLAIM_IDLE_SECS", .natural max64⟩, ⟨"WORKER_CONCURRENCY", .natural max64⟩,
    ⟨"WORKER_QUEUE_MAX", .natural max64⟩, ⟨"MAX_ATTEMPTS", .natural max32⟩,
    ⟨"RETRY_BACKOFF_BASE_MS", .natural max64⟩, ⟨"RETRY_BACKOFF_MAX_MS", .natural max64⟩,
    ⟨"AUDIO_DOWNLOAD_TIMEOUT", .natural max64⟩, ⟨"AUDIO_DOWNLOAD_RETRIES", .natural max32⟩,
    ⟨Settings.pauseVariable, .pause⟩, ⟨"TRANSCRIBE_TIMEOUT", .natural max64⟩,
    ⟨"MAX_AUDIO_BYTES", .natural max64⟩, ⟨"MAX_AUDIO_DURATION_SEC", .float⟩,
    ⟨"HEALTH_PORT", .natural max16⟩, ⟨"METRICS_PORT", .natural max16⟩,
    ⟨"DEDUP_TTL_SECS", .natural max64⟩, ⟨"DEDUP_CAPACITY", .natural max64⟩]

theorem pause_default : ∃ span, Time.Span.ofFloat (Settings.raisePause 0.5) = .ok span :=
  ⟨⟨500000000⟩, by decide +kernel⟩

theorem judges_steps (environment : Environment) :
    Judges environment (Settings.load environment) steps :=
  have natural {name : String} {fallback : Nat} (limit : Nat) :
      Judges environment (environment.read name (.natural limit) fallback)
        [⟨name, .natural limit⟩] := judges_read (natural_enforces limit) fallback
  .cons (judges_read float_enforces _) fun _ pause =>
  .cons (judges_address environment) fun _ _ =>
  .cons (natural max64) fun _ _ =>
  .cons (natural max64) fun _ _ =>
  .cons (natural max64) fun _ _ =>
  .cons (natural max32) fun _ _ =>
  .cons (natural max64) fun _ _ =>
  .cons (natural max64) fun _ _ =>
  .cons (natural max64) fun _ _ =>
  .cons (natural max32) fun _ _ =>
  .cons (judges_pause environment pause_default pause) fun _ _ =>
  .cons (natural max64) fun _ _ =>
  .cons (natural max64) fun _ _ =>
  .cons (judges_read float_enforces _) fun _ _ =>
  .cons (natural max16) fun _ _ =>
  .cons (natural max16) fun _ _ =>
  .cons (natural max64) fun _ _ =>
  .cons (natural max64) fun _ _ => .ok _

theorem judges_load (environment : Environment) :
    Judges environment (Settings.load environment) checks := by
  have judged := judges_steps environment
  constructor
  · intro settings loaded check member
    have included : ∀ check ∈ checks, check ∈ steps := by decide
    exact judged.passes settings loaded check (included check member)
  · intro fault stopped
    obtain ⟨check, member, details, blamed, text, set, invalid⟩ := judged.blames fault stopped
    have known : ∀ check ∈ steps, check = ⟨Settings.pauseVariable, .float⟩ ∨ check ∈ checks := by
      decide
    rcases known check member with rfl | member
    · refine ⟨⟨Settings.pauseVariable, .pause⟩, List.mem_cons_self, details, blamed, text, set, ?_⟩
      rintro ⟨value, number, read, -⟩
      exact invalid ((Decimal.read_ok_iff _).mp ⟨value, read⟩)
    · exact ⟨check, member, details, blamed, text, set, invalid⟩

/-! ## What is taken -/

/-- A setting with the variables that it comes from. -/
structure Setting where
  Kind : Type
  names : List String
  read : Environment → Except ConfigFault Kind
  project : Settings → Kind

namespace Setting

/-- A setting that is a text. -/
def text (name fallback : String) (project : Settings → String) : Setting :=
  ⟨String, [name], fun environment => .ok (environment.textOr name fallback), project⟩

/-- A setting that is made of a number. -/
def number {Kind : Type} (name : String) (limit fallback : Nat) (change : Nat → Kind)
    (project : Settings → Kind) : Setting :=
  ⟨Kind, [name], fun environment =>
    (environment.read name (.natural limit) fallback).map change, project⟩

/-- All settings. -/
def all : List Setting :=
  [⟨Deployment, ["APP_ENV"], fun environment => .ok environment.deployment, Settings.deployment⟩,
    text "LOG_LEVEL" "INFO" Settings.logLevel,
    ⟨String, ["REDIS_URL"], Environment.streamAddress, Settings.streamAddress⟩,
    ⟨String, ["KAFKA_GROUP_ID", "CONSUMER_GROUP"],
      fun environment => .ok (Settings.groupName environment), Settings.group⟩,
    ⟨Option String, ["CONSUMER_NAME"],
      fun environment => .ok (Settings.consumerName environment), Settings.consumer⟩,
    number "CLAIM_IDLE_SECS" max64 300 (fun seconds => .ofSeconds (max seconds 1))
      Settings.claimIdle,
    text "STT_JOBS_TOPIC" "stt.jobs" Settings.jobsTopic,
    text "STT_RESULTS_TOPIC" "stt.results" Settings.resultsTopic,
    text "STT_DLQ_TOPIC" "stt.jobs.dlq" Settings.deadTopic,
    number "WORKER_CONCURRENCY" max64 1 (max · 1) Settings.concurrency,
    number "WORKER_QUEUE_MAX" max64 4 (max · 1) Settings.queueCapacity,
    number "MAX_ATTEMPTS" max32 3 id Settings.maxAttempts,
    number "RETRY_BACKOFF_BASE_MS" max64 500 id Settings.retryBase,
    number "RETRY_BACKOFF_MAX_MS" max64 5000 id Settings.retryMax,
    number "AUDIO_DOWNLOAD_TIMEOUT" max64 30 Time.Span.ofSeconds Settings.downloadTimeout,
    number "AUDIO_DOWNLOAD_RETRIES" max32 2 id Settings.downloadRetries,
    ⟨Time.Span, [Settings.pauseVariable], fun environment =>
      environment.read Settings.pauseVariable .float 0.5 >>= Settings.pauseSpan,
      Settings.downloadPause⟩,
    number "TRANSCRIBE_TIMEOUT" max64 120 Time.Span.ofSeconds Settings.transcribeTimeout,
    number "MAX_AUDIO_BYTES" max64 26214400 id Settings.maxBytes,
    ⟨Float, ["MAX_AUDIO_DURATION_SEC"],
      fun environment => environment.read "MAX_AUDIO_DURATION_SEC" .float 600.0,
      Settings.maxSeconds⟩,
    ⟨EngineKind, ["STT_ENGINE"], fun environment =>
      .ok (.ofSetting (environment.textOr "STT_ENGINE" "indic-conformer")), Settings.engine⟩,
    ⟨Bool, ["STT_ENABLE_FALLBACK"],
      fun environment => .ok (environment.flag "STT_ENABLE_FALLBACK" true),
      Settings.fallbackEnabled⟩,
    text "STT_DEFAULT_LANG" "mr" Settings.language,
    text "CONFORMER_URL" "http://127.0.0.1:9000" Settings.conformer,
    text "ASR_MODEL_ID" "ai4bharat/indic-conformer-600m-multilingual" Settings.modelId,
    text "ASR_DECODING" "rnnt" Settings.decoding,
    text "WHISPER_URL" "http://127.0.0.1:9001" Settings.whisper,
    text "MODEL_SIZE" "small" Settings.modelSize,
    number "HEALTH_PORT" max16 8081 id Settings.healthPort,
    number "METRICS_PORT" max16 9108 id Settings.metricsPort,
    text "TMP_DIR" "/tmp/stt" Settings.directory,
    text "FFMPEG_BIN" "ffmpeg" Settings.converter,
    number "DEDUP_TTL_SECS" max64 3600 Time.Span.ofSeconds Settings.dedupLifetime,
    number "DEDUP_CAPACITY" max64 10000 id Settings.dedupCapacity]

/-- The variables of all settings are those that a worker looks up. -/
theorem names_all :
    (all.flatMap names).Perm (Settings.checkedVariables ++ Settings.freeVariables) := by
  decide +kernel

/-- A table of settings has every one of them, each with variables of its own. -/
structure IsTable (table : List Setting) : Prop where
  own : (table.flatMap names).Nodup
  complete : ∀ left right : Settings,
    (∀ setting ∈ table, setting.project left = setting.project right) → left = right

theorem isTable_all : IsTable all := by
  constructor
  case own =>
    have nodup : (Settings.checkedVariables ++ Settings.freeVariables).Nodup := by decide +kernel
    exact names_all.nodup_iff.mpr nodup
  case complete =>
    intro left right same
    simp only [all, List.forall_mem_cons, text, number] at same
    cases left
    cases right
    simp_all

/-- Each setting is what is read from its own variables. -/
theorem read_of_load {environment : Environment} {settings : Settings}
    (loaded : Settings.load environment = .ok settings) :
    ∀ setting ∈ all, setting.read environment = .ok (setting.project settings) := by
  obtain ⟨pause, readPause, loaded⟩ := of_bind_eq_ok loaded
  obtain ⟨address, readAddress, loaded⟩ := of_bind_eq_ok loaded
  obtain ⟨idle, readIdle, loaded⟩ := of_bind_eq_ok loaded
  obtain ⟨concurrency, readConcurrency, loaded⟩ := of_bind_eq_ok loaded
  obtain ⟨room, readRoom, loaded⟩ := of_bind_eq_ok loaded
  obtain ⟨attempts, readAttempts, loaded⟩ := of_bind_eq_ok loaded
  obtain ⟨base, readBase, loaded⟩ := of_bind_eq_ok loaded
  obtain ⟨limit, readLimit, loaded⟩ := of_bind_eq_ok loaded
  obtain ⟨timeout, readTimeout, loaded⟩ := of_bind_eq_ok loaded
  obtain ⟨retries, readRetries, loaded⟩ := of_bind_eq_ok loaded
  obtain ⟨span, madeSpan, loaded⟩ := of_bind_eq_ok loaded
  obtain ⟨patience, readPatience, loaded⟩ := of_bind_eq_ok loaded
  obtain ⟨bytes, readBytes, loaded⟩ := of_bind_eq_ok loaded
  obtain ⟨seconds, readSeconds, loaded⟩ := of_bind_eq_ok loaded
  obtain ⟨health, readHealth, loaded⟩ := of_bind_eq_ok loaded
  obtain ⟨metrics, readMetrics, loaded⟩ := of_bind_eq_ok loaded
  obtain ⟨lifetime, readLifetime, loaded⟩ := of_bind_eq_ok loaded
  obtain ⟨capacity, readCapacity, loaded⟩ := of_bind_eq_ok loaded
  cases loaded
  have paused : (environment.read Settings.pauseVariable .float 0.5 >>= Settings.pauseSpan) =
      .ok span := by
    rw [readPause]
    exact madeSpan
  simp [all, text, number, readAddress, readIdle, readConcurrency, readRoom, readAttempts, readBase,
    readLimit, readTimeout, readRetries, paused, readPatience, readBytes, readSeconds, readHealth,
    readMetrics, readLifetime, readCapacity, Except.map]

/-- What is read depends on nothing but the variables of the setting. -/
def IsLocal (setting : Setting) : Prop :=
  ∀ environment other : Environment,
    (∀ name ∈ setting.names, environment.get? name = other.get? name) →
      setting.read environment = setting.read other

theorem deployment_congr {environment other : Environment}
    (same : environment.get? "APP_ENV" = other.get? "APP_ENV") :
    environment.deployment = other.deployment := by
  rw [Environment.deployment, Environment.textOr, same]
  rfl

/-- Every reader looks only its own variables up. -/
theorem isLocal_all : ∀ setting ∈ all, setting.IsLocal := by
  refine List.forall_mem_cons.mpr ⟨?_, ?_⟩
  · intro environment other agree
    exact congrArg Except.ok (deployment_congr (agree _ List.mem_cons_self))
  · simp +contextual [IsLocal, text, number, Environment.textOr, Environment.read,
      Environment.flag, Environment.streamAddress, Settings.groupName, Settings.consumerName]

end Setting

/-! ## The settings of an environment -/

/-- The least values of the settings that are raised. -/
structure Settings.AreRaised (settings : Settings) : Prop where
  concurrency : 1 ≤ settings.concurrency
  queueCapacity : 1 ≤ settings.queueCapacity
  claimIdle : Time.Span.ofSeconds 1 ≤ settings.claimIdle
  downloadPause : Time.Span.ofMillis 100 ≤ settings.downloadPause

theorem areRaised_of_load {environment : Environment} {settings : Settings}
    (loaded : Settings.load environment = .ok settings) : settings.AreRaised := by
  have made := Setting.read_of_load loaded
  have number {Kind : Type} {name : String} {fallback : Nat} {change : Nat → Kind}
      {project : Settings → Kind}
      (member : .number name max64 fallback change project ∈ Setting.all) :
      ∃ value, change value = project settings :=
    (of_map_eq_ok (made _ member)).imp fun _ made => made.2
  constructor
  case concurrency =>
    have member : .number "WORKER_CONCURRENCY" max64 1 (max · 1) Settings.concurrency ∈
      Setting.all := by simp [Setting.all]
    obtain ⟨value, raised⟩ := number member
    exact raised ▸ Nat.le_max_right value 1
  case queueCapacity =>
    have member : .number "WORKER_QUEUE_MAX" max64 4 (max · 1) Settings.queueCapacity ∈
      Setting.all := by simp [Setting.all]
    obtain ⟨value, raised⟩ := number member
    exact raised ▸ Nat.le_max_right value 1
  case claimIdle =>
    have member : .number "CLAIM_IDLE_SECS" max64 300 (fun seconds => .ofSeconds (max seconds 1))
      Settings.claimIdle ∈ Setting.all := by simp [Setting.all]
    obtain ⟨value, raised⟩ := number member
    exact raised ▸ Nat.mul_le_mul_right _ (Nat.le_max_right value 1)
  case downloadPause =>
    have member : ⟨Time.Span, [Settings.pauseVariable], fun environment =>
      environment.read Settings.pauseVariable .float 0.5 >>= Settings.pauseSpan,
      Settings.downloadPause⟩ ∈ Setting.all := by simp [Setting.all]
    obtain ⟨seconds, -, converted⟩ := of_bind_eq_ok (made _ member)
    exact shortest_le_pauseSpan converted

/-- What holds of taking the settings from an environment. -/
structure ChecksEach (environment : Environment) : Prop where
  /-- The environment is accepted exactly if each checked variable is not set or valid. -/
  accepts : (∃ settings, Settings.load environment = .ok settings) ↔
    ∀ check ∈ checks, check.Passes environment
  /-- A fault names a variable that is set and not valid. -/
  blames : ∀ fault, Settings.load environment = .error fault →
    ∃ check ∈ checks, ∃ details, fault = .invalid check.name details ∧ check.Fails environment
  raises : ∀ settings, Settings.load environment = .ok settings → settings.AreRaised
  reads : ∀ settings, Settings.load environment = .ok settings →
    ∀ setting ∈ Setting.all, setting.read environment = .ok (setting.project settings)
  /-- Another environment that agrees on the variables of a setting agrees on the setting. -/
  agrees : ∀ settings, Settings.load environment = .ok settings →
    ∀ other otherSettings, Settings.load other = .ok otherSettings →
      ∀ setting ∈ Setting.all,
        (∀ name ∈ setting.names, environment.get? name = other.get? name) →
          setting.project settings = setting.project otherSettings

/-- Exactly the valid environments are accepted, variable by variable, and each setting is that of
its own variables, whatever the others hold. -/
theorem settings_checked_each :
    (∀ environment, ChecksEach environment) ∧ checks.map Check.name = Settings.checkedVariables ∧
      Setting.IsTable Setting.all := by
  refine ⟨?_, rfl, Setting.isTable_all⟩
  intro environment
  have judged := judges_load environment
  refine ⟨judged.ok_iff, judged.blames, fun _ => areRaised_of_load,
    fun _ => Setting.read_of_load, ?_⟩
  intro settings loaded other otherSettings otherLoaded setting member agree
  have here := Setting.read_of_load loaded setting member
  have there := Setting.read_of_load otherLoaded setting member
  rw [Setting.isLocal_all setting member environment other agree, there] at here
  exact (Except.ok.inj here).symm

end Scribe.Config
