import Scribe.Config.Settings
import Scribe.Dedup.Window
import Scribe.Delivery.Limits
import Scribe.Engine.Remote
import Scribe.Files
import Scribe.Health.Readiness
import Scribe.Http.Download
import Scribe.Stream.Connect
import Scribe.Stream.Consumer
import Scribe.Stream.Producer
import Scribe.Work.Processor

/-!
# Starting a worker

A worker takes its settings from the environment, opens the ports of its health pages,
creates its engines, connects to the stream server, and makes its scratch directory. The
first step that fails ends it, with a report that leads from the step to the cause.
-/

namespace Scribe.Worker

open Scribe.Config
open Scribe.Health

/-- Why a worker does not start. -/
inductive StartFault
  | settings (fault : ConfigFault)
  | port (number : Nat) (error : Int)
  | engines (failure : Failure)
  | stream (fault : Stream.Fault)
  | directory (path : String) (error : FileError)
  | window (fault : Dedup.WindowFault)

/-- A broker error with the errors behind it. -/
def streamChain (fault : Stream.Fault) : List String :=
  let behind :=
    match fault with
    | .address _ => [fault.message]
    | _ => [fault.message, fault.message]
  fault.toBroker.message :: behind

/-- The report on a fault, from the outside inward. -/
def StartFault.chain : StartFault → List String
  | .settings fault => ["Failed to load worker settings", fault.message]
  | .port number error => ["Failed to bind 0.0.0.0:" ++ Text.decimal number, systemError error]
  | .engines failure => ["No transcription engine could be initialized", failure.display]
  | .stream fault => "Failed to connect to Redis" :: streamChain fault
  | .directory path error => ["Failed to create " ++ path, error.message]
  | .window fault => [fault.message]

/-- Something that is asked for at the start. -/
inductive StartQuestion
  /-- Open a port on all addresses. -/
  | openPort (port : Nat)
  /-- Create an engine, if it is healthy. -/
  | createEngine (kind : EngineKind)
  /-- Deal with the stream server. -/
  | stream (question : Stream.Question)
  /-- Make a directory with all above it. -/
  | makeDirectory (path : String)

namespace StartQuestion

/-- What a question is answered with. -/
abbrev Answer : StartQuestion → Type
  | .openPort _ => Except Int Unit
  | .createEngine _ => Except Failure Engine
  | .stream question => question.Answer
  | .makeDirectory _ => Except FileError Unit

end StartQuestion

/-- A computation at the start. -/
abbrev Starting := Dialogue StartQuestion StartQuestion.Answer

/-- Ask for something. -/
def ask (question : StartQuestion) : Starting question.Answer := Dialogue.query question

/-- A dialogue about engines as part of the start. -/
def aboutEngines {α : Type} : Selector.Creation α → Starting α
  | .done value => .done value
  | .ask kind next => .ask (.createEngine kind) fun engine => aboutEngines (next engine)

/-- A dialogue with the stream server as part of the start. -/
def aboutStream {α : Type} : Stream.Talk α → Starting α
  | .done value => .done value
  | .ask question next => .ask (.stream question) fun answer => aboutStream (next answer)

/-- A worker that has started. -/
structure Started where
  settings : Settings
  readiness : Readiness
  consumer : Stream.Consumer
  producer : Stream.Producer
  processor : Processor
  window : Dedup.Window
  limits : Delivery.Limits
  download : Download

/-- How often connecting to the stream server is tried. -/
def connectAttempts : Nat := 5

/-- The delays between those tries. -/
def connectBackoff : Backoff := Backoff.ofMillis 500 5000

/-! ## From settings to parts -/

/-- Where the engines are. -/
def serversOf (settings : Settings) : EngineServers where
  conformer := settings.conformer
  whisper := settings.whisper
  modelId := settings.modelId
  decoding := settings.decoding
  modelSize := settings.modelSize

/-- What the selector goes by. -/
def optionsOf (settings : Settings) : SelectorOptions where
  fallbackEnabled := settings.fallbackEnabled
  language := settings.language
  timeout := settings.transcribeTimeout

/-- The policy for failed messages. -/
def policyOf (settings : Settings) : RetryPolicy where
  jobsTopic := settings.jobsTopic
  deadTopic := settings.deadTopic
  maxAttempts := settings.maxAttempts
  backoff := Backoff.ofMillis settings.retryBase settings.retryMax

/-- How jobs are handled. -/
def processorOf (settings : Settings) (selector : Selector) : Processor where
  resultsTopic := settings.resultsTopic
  directory := settings.directory
  downloadTimeout := settings.downloadTimeout
  maxBytes := settings.maxBytes
  maxSeconds := settings.maxSeconds
  selector
  retry := policyOf settings

/-- The limits of the delivery loop. -/
def limitsOf (settings : Settings) : Delivery.Limits :=
  let limits : Delivery.Limits := { topic := settings.jobsTopic }
  (limits.withConcurrency settings.concurrency).withCapacity settings.queueCapacity

/-- The consumer; `drawn` is the name of one that has none. -/
def consumerOf (settings : Settings) (drawn : String) : Stream.Consumer where
  group := settings.group
  name := settings.consumer.getD drawn
  claimIdle := settings.claimIdle

/-! ## The start -/

/-- Open ports in order. -/
def openPorts : List Nat → Starting (Except StartFault Unit)
  | [] => return .ok ()
  | port :: rest => do
      match ← ask (.openPort port) with
      | .error error => return .error (.port port error)
      | .ok _ => openPorts rest

/-- The ports of the health pages; the metrics may have one of their own. -/
def portsOf (settings : Settings) : List Nat :=
  if settings.metricsPort = settings.healthPort then [settings.healthPort]
  else [settings.healthPort, settings.metricsPort]

/-- The readiness once the engines were created, or could not be. -/
def readinessAfter (readiness : Readiness) : Except Failure Selector → Readiness
  | .ok selector => readiness.succeed selector.primary.kind.name
  | .error _ => readiness.fail

/-- Create the engines that the settings ask for. -/
def createEngines (settings : Settings) (readiness : Readiness) :
    Starting (Except Failure Selector × Readiness) := do
  let created ← aboutEngines (Selector.create settings.engine (optionsOf settings))
  return (created, readinessAfter readiness created)

/-- Go on with the engines at hand. -/
def startWith (settings : Settings) (readiness : Readiness) (selector : Selector)
    (drawn : String) : Starting (Except StartFault Started) := do
  match ← aboutStream (Stream.connect settings.streamAddress connectAttempts connectBackoff) with
  | .error fault => return .error (.stream fault)
  | .ok _ =>
      match ← ask (.makeDirectory settings.directory) with
      | .error error => return .error (.directory settings.directory error)
      | .ok _ =>
          match Dedup.Window.of settings.dedupLifetime settings.dedupCapacity with
          | .error fault => return .error (.window fault)
          | .ok window =>
              return .ok {
                settings
                readiness
                consumer := consumerOf settings drawn
                producer := {}
                processor := processorOf settings selector
                window
                limits := limitsOf settings
                download := {
                  limit := settings.maxBytes
                  retries := settings.downloadRetries
                  pause := settings.downloadPause } }

/-- Start with settings. -/
def startFrom (settings : Settings) (drawn : String) :
    Starting (Except StartFault Started × Readiness) := do
  let readiness := ({} : Readiness).begin settings.engine.name
  match ← openPorts (portsOf settings) with
  | .error fault => return (.error fault, readiness)
  | .ok _ =>
      match ← createEngines settings readiness with
      | (.error failure, readiness) => return (.error (.engines failure), readiness)
      | (.ok selector, readiness) =>
          return (← startWith settings readiness selector drawn, readiness)

/-- Start in an environment. -/
def start (environment : Environment) (drawn : String) :
    Starting (Except StartFault Started × Readiness) :=
  match Settings.load environment with
  | .error fault => return (.error (.settings fault), {})
  | .ok settings => startFrom settings drawn

end Scribe.Worker
