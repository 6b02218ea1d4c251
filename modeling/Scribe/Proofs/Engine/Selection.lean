import Scribe.Proofs.Work.Effects

/-!
# How engines are selected and asked

Creating a selector asks for every kind of engine that it may be made of, each once and in order
of preference.  The engines that could be created are its primary engine and its fallback; it is
only without any of them that the creation fails.

A selector asks its primary engine first.  If that fails, and there is a stand-in, it asks the
stand-in, and what that says counts.  In a selector that was created from engines of the kinds
asked for, the stand-in is the fallback, without any further condition.
-/

namespace Scribe.Selector

open Scribe.Dialogue
open Scribe.Work (request course_request_bind_iff)

/-! ## Creation -/

/-- A kind of engine that was asked for, and whether it could be created. -/
abbrev Trial := Dialogue.Exchange EngineKind fun _ => Except Failure Engine

/-- The engine of a trial that succeeded. -/
def engine? (trial : Trial) : Option Engine := trial.answer.toOption

/-- The engines that could be created, in order. -/
def engines (trials : List Trial) : List Engine := trials.filterMap engine?

/-- The kinds of engines that a selector may be made of, in order of preference. -/
def allowed (requested : EngineKind) (options : SelectorOptions) : List EngineKind :=
  match requested with
  | .whisper => [.whisper]
  | .conformer => if options.fallbackEnabled then [.conformer, .whisper] else [.conformer]

/-- What trials come to: a selector has the engines that could be created, and a failure to
create one is a model that could not be loaded. -/
def MadeOf (options : SelectorOptions) (found : List Engine) : Except Failure Selector → Prop
  | .ok selector =>
      found = selector.primary :: selector.fallback.toList ∧ selector.options = options
  | .error failure => found = [] ∧ failure.code = .modelLoadFailed

theorem loadFailure_code (failure : Failure) :
    (loadFailure failure).code = .modelLoadFailed := by
  unfold loadFailure
  split
  · assumption
  · rfl

theorem course_createWhisper {options : SelectorOptions} {trials : List Trial}
    {created : Except Failure Selector}
    (course : Course (createWhisper options) trials created) :
    trials.map Exchange.question = [.whisper] ∧ MadeOf options (engines trials) created := by
  obtain ⟨answer, rest, rfl, after⟩ := course_query_bind_iff.mp course
  cases answer with
  | error failure =>
      obtain ⟨rfl, rfl⟩ := course_pure_iff.mp after
      exact ⟨rfl, rfl, loadFailure_code failure⟩
  | ok engine =>
      obtain ⟨rfl, rfl⟩ := course_pure_iff.mp after
      exact ⟨rfl, rfl, rfl⟩

/-- Every kind that is allowed is tried once, and a selector is made of what was found. -/
theorem course_create {requested : EngineKind} {options : SelectorOptions}
    {trials : List Trial} {created : Except Failure Selector}
    (course : Course (create requested options) trials created) :
    trials.map Exchange.question = allowed requested options ∧
      MadeOf options (engines trials) created := by
  cases requested with
  | whisper => exact course_createWhisper course
  | conformer =>
      obtain ⟨answer, rest, rfl, after⟩ := course_query_bind_iff.mp course
      cases enabled : options.fallbackEnabled with
      | false =>
          simp only [allowed, enabled, Bool.false_eq_true, if_false] at after ⊢
          cases answer with
          | error failure =>
              obtain ⟨rfl, rfl⟩ := course_pure_iff.mp after
              exact ⟨rfl, rfl, loadFailure_code failure⟩
          | ok primary =>
              obtain ⟨rfl, rfl⟩ := course_pure_iff.mp after
              exact ⟨rfl, rfl, rfl⟩
      | true =>
          simp only [allowed, enabled, if_true] at after ⊢
          cases answer with
          | error failure =>
              obtain ⟨asked, made⟩ := course_createWhisper after
              exact ⟨congrArg (EngineKind.conformer :: ·) asked, made⟩
          | ok primary =>
              obtain ⟨second, _, rfl, final⟩ := course_query_bind_iff.mp after
              cases second with
              | error failure =>
                  obtain ⟨rfl, rfl⟩ := course_pure_iff.mp final
                  exact ⟨rfl, rfl, rfl⟩
              | ok fallback =>
                  obtain ⟨rfl, rfl⟩ := course_pure_iff.mp final
                  exact ⟨rfl, rfl, rfl⟩

/-- Every engine that was created is of the kind that was asked for. -/
def Genuine (trials : List Trial) : Prop :=
  ∀ kind engine, (⟨kind, .ok engine⟩ : Trial) ∈ trials → engine.kind = kind

/-- Where two engines could be created, falling back is enabled and the first one was asked for
as the conformer. -/
theorem first_of_two {requested : EngineKind} {options : SelectorOptions} {trials : List Trial}
    {first second : Engine} (asked : trials.map Exchange.question = allowed requested options)
    (found : engines trials = [first, second]) :
    options.fallbackEnabled = true ∧ (⟨.conformer, .ok first⟩ : Trial) ∈ trials := by
  have few : (engines trials).length ≤ trials.length := List.length_filterMap_le engine? trials
  have kinds : trials.length = (allowed requested options).length := by
    rw [← asked, List.length_map]
  rw [found, kinds] at few
  cases requested with
  | whisper => simp [allowed] at few
  | conformer =>
      cases enabled : options.fallbackEnabled with
      | false => simp [allowed, enabled] at few
      | true =>
          simp only [allowed, enabled, if_true] at asked
          obtain ⟨⟨kind, answer⟩, rest, rfl, isFirst, others⟩ := List.map_eq_cons_iff.mp asked
          obtain ⟨last, none, rfl, _, nothing⟩ := List.map_eq_cons_iff.mp others
          obtain rfl := List.map_eq_nil_iff.mp nothing
          cases isFirst
          refine ⟨rfl, ?_⟩
          cases answer with
          | error failure =>
              have one : (engines [last]).length ≤ 1 := List.length_filterMap_le engine? [last]
              have same : engines [last] = [first, second] := found
              rw [same] at one
              simp at one
          | ok engine =>
              have same : engine :: engines [last] = [first, second] := found
              rw [(List.cons.inj same).1]
              exact List.mem_cons_self

/-- In a selector that was created the fallback is the stand-in of the primary engine: there is
one only where the conformer is the primary engine and falling back is enabled. -/
theorem standIn?_of_created {requested : EngineKind} {options : SelectorOptions}
    {trials : List Trial} {selector : Selector}
    (course : Course (create requested options) trials (.ok selector))
    (genuine : Genuine trials) : selector.standIn? = selector.fallback := by
  obtain ⟨asked, found, same⟩ := course_create course
  cases fallback : selector.fallback with
  | none => simp [standIn?, fallback]
  | some second =>
      rw [fallback] at found
      obtain ⟨enabled, tried⟩ := first_of_two asked found
      simp [standIn?, fallback, same, enabled, genuine _ _ tried]

/-! ## Asking engines -/

/-- The engine that has a role. -/
def engineOf? (selector : Selector) : EngineRole → Option Engine
  | .primary => some selector.primary
  | .fallback => selector.fallback

/-- A stand-in is the fallback. -/
theorem fallback_of_standIn {selector : Selector} {engine : Engine}
    (standIn : selector.standIn? = some engine) : selector.fallback = some engine := by
  unfold standIn? at standIn
  split at standIn
  · exact standIn
  · cases standIn

/-- A call of the engine that has a role, with its reply. -/
def call (selector : Selector) (recording : Recording) (language : String) (role : EngineRole)
    (reply : Option (Except Failure Transcript)) : Work.Exchange :=
  ⟨.transcribe role recording language selector.options.timeout, reply⟩

/-- What the reply of an engine comes to. -/
def outcome (selector : Selector) (role : EngineRole) (engine : Engine)
    (reply : Option (Except Failure Transcript)) : Except Failure Transcription :=
  (heard selector.options.timeout reply).map fun transcript =>
    ⟨transcript, engine, role == .fallback⟩

theorem heard_eq_ok_iff {timeout : Time.Span} {reply : Option (Except Failure Transcript)}
    {transcript : Transcript} :
    heard timeout reply = .ok transcript ↔ reply = some (.ok transcript) := by
  cases reply with
  | none => simp [heard]
  | some told => simp [heard]

theorem course_ask {selector : Selector} {role : EngineRole} {engine : Engine}
    {recording : Recording} {language : String} {exchanges : List Work.Exchange}
    {result : Except Failure Transcription}
    (course : Course (selector.ask role engine recording language) exchanges result) :
    ∃ reply, exchanges = [selector.call recording language role reply] ∧
      result = selector.outcome role engine reply := by
  obtain ⟨reply, _, rfl, final⟩ := course_request_bind_iff.mp course
  obtain ⟨rfl, rfl⟩ := course_pure_iff.mp final
  exact ⟨reply, rfl, rfl⟩

/-- How engines are asked for a transcript. -/
inductive Asked (selector : Selector) (recording : Recording) (language : String) :
    List Work.Exchange → Except Failure Transcription → Prop
  | understood {first : Option (Except Failure Transcript)} {transcript : Transcript}
      (heard : heard selector.options.timeout first = .ok transcript) :
      Asked selector recording language [selector.call recording language .primary first]
        (.ok ⟨transcript, selector.primary, false⟩)
  | alone {first : Option (Except Failure Transcript)} {failure : Failure}
      (failed : heard selector.options.timeout first = .error failure)
      (none : selector.standIn? = none) :
      Asked selector recording language [selector.call recording language .primary first]
        (.error failure)
  | replaced {first second : Option (Except Failure Transcript)} {failure : Failure}
      {engine : Engine} (failed : heard selector.options.timeout first = .error failure)
      (standIn : selector.standIn? = some engine) :
      Asked selector recording language
        [selector.call recording language .primary first,
          selector.call recording language .fallback second]
        (selector.outcome .fallback engine second)

theorem course_transcribe {selector : Selector} {recording : Recording} {language : String}
    {exchanges : List Work.Exchange} {result : Except Failure Transcription}
    (course : Course (selector.transcribe recording language) exchanges result) :
    Asked selector recording language exchanges result := by
  obtain ⟨early, late, told, rfl, asking, after⟩ := course_bind_iff.mp course
  obtain ⟨first, rfl, rfl⟩ := course_ask asking
  cases said : heard selector.options.timeout first with
  | ok transcript =>
      simp only [outcome, said, Except.map] at after
      obtain ⟨rfl, rfl⟩ := course_pure_iff.mp after
      exact .understood said
  | error failure =>
      simp only [outcome, said, Except.map] at after
      cases standIn : selector.standIn? with
      | none =>
          simp only [standIn] at after
          obtain ⟨rfl, rfl⟩ := course_pure_iff.mp after
          exact .alone said standIn
      | some engine =>
          simp only [standIn] at after
          obtain ⟨second, rfl, rfl⟩ := course_ask after
          exact .replaced said standIn

end Scribe.Selector
