import Scribe.Decimal.Layout
import Scribe.Dialogue
import Scribe.Engine.Kind
import Scribe.Engine.Language
import Scribe.Text.Quoted
import Scribe.Failure.Basic
import Scribe.Engine.Transcript
import Scribe.Time.Span

/-!
# Engine selection

A selector has a primary engine and perhaps a fallback. The engines are created at the
start: where the conformer was asked for and cannot be created, the whisper takes its
place if falling back is enabled. Later the fallback is asked when the primary engine is
the conformer and fails or does not answer in time.
-/

namespace Scribe

/-- An engine, by its kind and the version of its model. -/
structure Engine where
  kind : EngineKind
  version : String
deriving DecidableEq, Repr

/-- What a selector goes by. -/
structure SelectorOptions where
  fallbackEnabled : Bool := true
  language : String := "mr"
  timeout : Time.Span := Time.Span.ofSeconds 120
deriving DecidableEq, Repr

/-- A primary engine with an engine to fall back on. -/
structure Selector where
  primary : Engine
  fallback : Option Engine
  options : SelectorOptions
deriving DecidableEq, Repr

namespace Selector

/-! ## Creation -/

/-- Creating engines is a dialogue: each kind asked for is an engine or a failure. -/
abbrev Creation := Dialogue EngineKind fun _ => Except Failure Engine

/-- A failure to create an engine, as the failure to load a model that it is. -/
def loadFailure (failure : Failure) : Failure :=
  if failure.code = .modelLoadFailed then failure else .of .modelLoadFailed failure.message

/-- Create the whisper as the only engine. -/
def createWhisper (options : SelectorOptions) : Creation (Except Failure Selector) := do
  match ← Dialogue.query EngineKind.whisper with
  | .error failure => return .error (loadFailure failure)
  | .ok engine => return .ok ⟨engine, none, options⟩

/-- Create the engines for the kind that was asked for. -/
def create (requested : EngineKind) (options : SelectorOptions) :
    Creation (Except Failure Selector) :=
  match requested with
  | .whisper => createWhisper options
  | .conformer => do
      match ← Dialogue.query EngineKind.conformer with
      | .error failure =>
          if options.fallbackEnabled then createWhisper options
          else return .error (loadFailure failure)
      | .ok primary =>
          if options.fallbackEnabled then
            match ← Dialogue.query EngineKind.whisper with
            | .error _ => return .ok ⟨primary, none, options⟩
            | .ok fallback => return .ok ⟨primary, some fallback, options⟩
          else return .ok ⟨primary, none, options⟩

/-! ## Description -/

/-- Whether there is an engine to fall back on. -/
def hasFallback (selector : Selector) : Bool :=
  selector.fallback.isSome

/-- The language to ask for, given a hint. -/
def resolveLanguage (selector : Selector) (hint : Option String) : String :=
  Language.resolve hint selector.options.language

/-- A description of the options. -/
def describeOptions (options : SelectorOptions) : String :=
  "SelectorOptions \x7b fallback_enabled: " ++ (if options.fallbackEnabled then "true" else "false")
    ++ ", default_language: " ++ Text.quote options.language ++
    ", timeout: " ++ options.timeout.short ++ " \x7d"

/-- A description of the selector. -/
def describe (selector : Selector) : String :=
  let fallback :=
    match selector.fallback with
    | none => "None"
    | some engine => "Some(" ++ engine.kind.label ++ ")"
  "EngineSelector \x7b primary: " ++ selector.primary.kind.label ++ ", fallback: " ++ fallback ++
    ", options: " ++ describeOptions selector.options ++ " \x7d"

end Selector

/-- Which of the two engines is asked. -/
inductive EngineRole
  | primary
  | fallback
deriving DecidableEq, Repr

/-- The name of a role. -/
def EngineRole.name : EngineRole → String
  | .primary => "primary"
  | .fallback => "fallback"

/-- A recording in a file, with its length in seconds. -/
structure Recording where
  path : String
  seconds : Float
deriving DecidableEq

/-- A transcript and the engine it comes from. -/
structure Transcription where
  transcript : Transcript
  engine : Engine
  fallbackUsed : Bool
deriving DecidableEq

namespace Selector

/-- The failure of an engine that gives no answer in time. -/
def timedOut (timeout : Time.Span) : Failure :=
  .of .transcribeTimeout
    ("Transcription timed out after " ++ Decimal.plain timeout.toSeconds ++ "s")

/-- What an engine said, where no answer means that it took too long. -/
def heard (timeout : Time.Span) (reply : Option (Except Failure Transcript)) :
    Except Failure Transcript :=
  reply.getD (.error (timedOut timeout))

/-- The engine that may be asked when the primary one has failed. -/
def standIn? (selector : Selector) : Option Engine :=
  if selector.options.fallbackEnabled ∧ selector.primary.kind = .conformer then selector.fallback
  else none

end Selector

end Scribe
