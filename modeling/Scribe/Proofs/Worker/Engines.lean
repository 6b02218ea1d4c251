import Scribe.Proofs.Engine.Selection
import Scribe.Proofs.Worker.Ranges
import Scribe.Work.Script

/-!
# The engines of a worker

A worker creates its engines at the start and says by its readiness whether it could.  The
selector that it gets then asks the engines, each at most once and no longer than allowed, and
names the engine that a transcript comes from.
-/

namespace Scribe.Worker

open Scribe.Config
open Scribe.Dialogue
open Scribe.Health
open Scribe.Work

/-! ## Creation at the start -/

/-- A question at the start with its answer. -/
abbrev StartExchange := Dialogue.Exchange StartQuestion StartQuestion.Answer

/-- The creation of an engine as an exchange at the start. -/
def started (trial : Selector.Trial) : StartExchange :=
  ⟨.createEngine trial.question, trial.answer⟩

theorem course_aboutEngines {α : Type} {creation : Selector.Creation α}
    {exchanges : List StartExchange} {value : α}
    (course : Course (aboutEngines creation) exchanges value) :
    ∃ trials, exchanges = trials.map started ∧ Course creation trials value := by
  induction creation generalizing exchanges with
  | done result =>
      obtain ⟨rfl, rfl⟩ := course_done_iff.mp course
      exact ⟨[], rfl, .done _⟩
  | ask kind next ih =>
      obtain ⟨answer, rest, rfl, later⟩ := course_ask_iff.mp course
      obtain ⟨trials, rfl, created⟩ := ih answer later
      exact ⟨⟨kind, answer⟩ :: trials, rfl, course_ask_iff.mpr ⟨answer, trials, rfl, created⟩⟩

/-- The engines are created as for a selector, and the readiness goes by the result. -/
theorem course_createEngines {settings : Settings} {readiness after : Readiness}
    {exchanges : List StartExchange} {created : Except Failure Selector}
    (course : Course (createEngines settings readiness) exchanges (created, after)) :
    ∃ trials, exchanges = trials.map started ∧
      Course (Selector.create settings.engine (optionsOf settings)) trials created ∧
      after = readinessAfter readiness created := by
  obtain ⟨early, late, result, rfl, creating, final⟩ := course_bind_iff.mp course
  obtain ⟨rfl, same⟩ := course_pure_iff.mp final
  cases same
  obtain ⟨trials, rfl, creation⟩ := course_aboutEngines creating
  exact ⟨trials, List.append_nil _, creation, rfl⟩

/-- What the creation of the engines comes to. -/
structure Initialized (settings : Settings) (exchanges : List StartExchange)
    (created : Except Failure Selector) (after : Readiness) : Prop where
  /-- Each kind that is allowed is asked for once, and no other. -/
  asked : exchanges.map Exchange.question =
    (Selector.allowed settings.engine (optionsOf settings)).map .createEngine
  /-- It fails only as a model that cannot be loaded, and only without any engine. -/
  failed : ∀ failure, created = .error failure → failure.code = .modelLoadFailed ∧
    ∀ kind engine, (⟨.createEngine kind, .ok engine⟩ : StartExchange) ∉ exchanges
  /-- The engines of the selector are those that could be created. -/
  built : ∀ selector, created = .ok selector → ∀ engine,
    (∃ kind, (⟨.createEngine kind, .ok engine⟩ : StartExchange) ∈ exchanges) ↔
      engine = selector.primary ∨ selector.fallback = some engine
  ready : ∀ selector, created = .ok selector →
    after = ⟨.ready, selector.primary.kind.name⟩
  unready : ∀ failure, created = .error failure → after.lifecycle = .failed

/-- Which engines could be created can be read off the exchanges. -/
theorem mem_engines_iff {trials : List Selector.Trial} {engine : Engine} :
    engine ∈ Selector.engines trials ↔
      ∃ kind, (⟨.createEngine kind, .ok engine⟩ : StartExchange) ∈ trials.map started := by
  constructor
  · intro member
    obtain ⟨⟨kind, answer⟩, inside, found⟩ := List.mem_filterMap.mp member
    cases answer with
    | error failure => cases found
    | ok created =>
        cases found
        exact ⟨kind, List.mem_map.mpr ⟨_, inside, rfl⟩⟩
  · rintro ⟨kind, member⟩
    obtain ⟨⟨_, answer⟩, inside, same⟩ := List.mem_map.mp member
    cases same
    exact List.mem_filterMap.mpr ⟨_, inside, rfl⟩

theorem initialized_of_course {settings : Settings} {readiness : Readiness}
    {trials : List Selector.Trial} {created : Except Failure Selector}
    (course : Course (Selector.create settings.engine (optionsOf settings)) trials created) :
    Initialized settings (trials.map started) created (readinessAfter readiness created) := by
  obtain ⟨asked, made⟩ := Selector.course_create course
  constructor
  · rw [← asked, List.map_map, List.map_map]
    rfl
  · rintro failure rfl
    obtain ⟨none, code⟩ := made
    refine ⟨code, ?_⟩
    intro kind engine member
    have found := mem_engines_iff.mpr ⟨kind, member⟩
    rw [none] at found
    cases found
  · rintro selector rfl engine
    obtain ⟨found, _⟩ := made
    rw [← mem_engines_iff, found, List.mem_cons, Option.mem_toList]
  · rintro selector rfl
    rfl
  · rintro failure rfl
    rfl

/-! ## Service -/

/-- What the engines of a selector are asked, and what comes of it: `first` is the reply of the
primary engine, and `later` that of the fallback if it is asked. -/
structure Served (selector : Selector) (recording : Recording) (language : String)
    (first : Option (Except Failure Transcript))
    (later : Option (Option (Except Failure Transcript)))
    (exchanges : List Work.Exchange) (result : Except Failure Transcription) : Prop where
  /-- The primary engine is asked once and the fallback at most once, each for no longer than
  the timeout. -/
  calls : exchanges = selector.call recording language .primary first ::
    (later.map (selector.call recording language .fallback)).toList
  /-- The fallback is asked exactly if there is one and the primary engine has not given a
  transcript in time. -/
  fallsBack : later.isSome = true ↔
    (∀ transcript, first ≠ some (.ok transcript)) ∧ selector.hasFallback = true
  primary : later = none →
    result = (Selector.heard selector.options.timeout first).map fun transcript =>
      ⟨transcript, selector.primary, false⟩
  fallback : ∀ second engine, later = some second → selector.fallback = some engine →
    result = (Selector.heard selector.options.timeout second).map fun transcript =>
      ⟨transcript, engine, true⟩
  /-- A transcript is named after the engine that gave it. -/
  attributed : ∀ transcription, result = .ok transcription → ∃ role,
    selector.engineOf? role = some transcription.engine ∧
    selector.call recording language role (some (.ok transcription.transcript)) ∈ exchanges ∧
    (transcription.fallbackUsed = true ↔ role = .fallback)

/-- A selector whose fallback is its stand-in serves every recording. -/
theorem served_of_asked {selector : Selector} {recording : Recording} {language : String}
    {exchanges : List Work.Exchange} {result : Except Failure Transcription}
    (aided : selector.standIn? = selector.fallback)
    (asked : Selector.Asked selector recording language exchanges result) :
    ∃ first later, Served selector recording language first later exchanges result := by
  cases asked with
  | @understood first transcript heard =>
      obtain rfl := Selector.heard_eq_ok_iff.mp heard
      refine ⟨_, none, ⟨rfl, ?_, fun _ => by rw [heard]; rfl, ?_, ?_⟩⟩
      · simp
      · intro second engine impossible
        cases impossible
      · intro transcription same
        cases same
        exact ⟨.primary, rfl, List.mem_cons_self, by simp⟩
  | @alone first failure failed alone =>
      rw [aided] at alone
      refine ⟨first, none, ⟨rfl, ?_, fun _ => by rw [failed]; rfl, ?_, ?_⟩⟩
      · simp [Selector.hasFallback, alone]
      · intro second engine impossible
        cases impossible
      · intro transcription same
        cases same
  | @replaced first second failure engine failed standIn =>
      rw [aided] at standIn
      refine ⟨first, some second, ⟨rfl, ?_, ?_, ?_, ?_⟩⟩
      · refine ⟨fun _ => ⟨?_, by simp [Selector.hasFallback, standIn]⟩, fun _ => rfl⟩
        rintro transcript rfl
        cases failed
      · intro impossible
        cases impossible
      · intro other engine same has
        cases same
        rw [standIn] at has
        cases has
        rfl
      · intro transcription same
        cases said : Selector.heard selector.options.timeout second with
        | error failure => simp [Selector.outcome, said, Except.map] at same
        | ok transcript =>
            obtain rfl := Selector.heard_eq_ok_iff.mp said
            simp only [Selector.outcome, said, Except.map] at same
            cases same
            exact ⟨.fallback, standIn, List.mem_cons_of_mem _ List.mem_cons_self, by simp⟩

/-! ## Time -/

/-- Surroundings log one call of an engine and let no more time pass than the timeout. -/
theorem run_ask (selector : Selector) (role : EngineRole) (engine : Engine)
    (recording : Recording) (language : String) (here : Surroundings) :
    let there := ((selector.ask role engine recording language).run Surroundings.answer here).2
    there.calls.length = here.calls.length + 1 ∧
      there.waited.nanos ≤ here.waited.nanos + selector.options.timeout.nanos := by
  have hears : ∀ (now : Surroundings) (reply : Reply),
      (now.hear reply selector.options.timeout).2.calls = now.calls ∧
      (now.hear reply selector.options.timeout).2.waited.nanos ≤
        now.waited.nanos + selector.options.timeout.nanos := by
    intro now reply
    unfold Surroundings.hear
    split
    next inTime => exact ⟨rfl, Nat.add_le_add_left inTime _⟩
    next => exact ⟨rfl, Nat.le_refl _⟩
  have logs : ∀ call : Call, (here.log call).calls.length = here.calls.length + 1 :=
    fun call => List.length_append
  cases role with
  | primary =>
      obtain ⟨same, bound⟩ :=
        hears (here.log (.transcribe .primary recording language)) here.script.primary
      exact ⟨(congrArg List.length same).trans (logs _), bound⟩
  | fallback =>
      obtain ⟨same, bound⟩ :=
        hears (here.log (.transcribe .fallback recording language)) here.script.fallback
      exact ⟨(congrArg List.length same).trans (logs _), bound⟩

/-- However slow the engines are, at most two are asked, and each for no longer than the
timeout. -/
theorem perform_transcribe (selector : Selector) (recording : Recording) (language : String)
    (here : Surroundings) (script : Script) :
    let there := (here.perform (selector.transcribe recording language) script).2
    there.calls.length ≤ 2 ∧
      there.waited.nanos ≤ there.calls.length * selector.options.timeout.nanos := by
  unfold Surroundings.perform Selector.transcribe
  rw [run_bind]
  generalize start : ({ here with script, calls := [], sent := [], waited := ⟨0⟩ } :
    Surroundings) = now
  have fresh : now.calls = [] ∧ now.waited = ⟨0⟩ := by
    subst start
    exact ⟨rfl, rfl⟩
  obtain ⟨once, brief⟩ := run_ask selector .primary selector.primary recording language now
  rw [fresh.1, List.length_nil] at once
  rw [fresh.2] at brief
  dsimp only at once brief
  generalize (selector.ask .primary selector.primary recording language).run
    Surroundings.answer now = told at once brief ⊢
  obtain ⟨answer, later⟩ := told
  dsimp only at once brief
  have single : later.calls.length ≤ 2 ∧
      later.waited.nanos ≤ later.calls.length * selector.options.timeout.nanos := by
    rw [once]
    constructor <;> omega
  cases answer with
  | ok transcription => exact single
  | error failure =>
      cases standIn : selector.standIn? with
      | none => exact single
      | some engine =>
          obtain ⟨twice, brief'⟩ := run_ask selector .fallback engine recording language later
          rw [once] at twice
          dsimp only at brief' ⊢
          rw [twice]
          constructor <;> omega

/-- However slow the engines are, a recording is not kept waiting longer than it should. -/
structure Timely (selector : Selector) (recording : Recording) (language : String) : Prop where
  /-- An engine that is asked is called once, and given up when the timeout is over. -/
  each : ∀ role engine (here : Surroundings),
    let there := ((selector.ask role engine recording language).run Surroundings.answer here).2
    there.calls.length = here.calls.length + 1 ∧
      there.waited.nanos ≤ here.waited.nanos + selector.options.timeout.nanos
  /-- At most two engines are asked, which take no longer than as many timeouts. -/
  whole : ∀ here script,
    let there := (Surroundings.perform (selector.transcribe recording language) script here).2
    there.calls.length ≤ 2 ∧
      there.waited.nanos ≤ there.calls.length * selector.options.timeout.nanos

/-- The engines that a worker creates are those that it may use and that can be had; its readiness
says whether there is one.  For every recording the primary engine is asked first and the fallback
in its place if it fails, neither for longer than the timeout, and a transcript is named after the
engine that gave it. -/
theorem engines_serve (settings : Settings) (readiness after : Readiness)
    (exchanges : List StartExchange) (created : Except Failure Selector)
    (course : Course (createEngines settings readiness) exchanges (created, after))
    (genuine : ∀ kind engine, (⟨.createEngine kind, .ok engine⟩ : StartExchange) ∈ exchanges →
      engine.kind = kind) :
    Initialized settings exchanges created after ∧
    ∀ selector, created = .ok selector → ∀ recording language,
      (∀ calls result, Course (selector.transcribe recording language) calls result →
        ∃ first later, Served selector recording language first later calls result) ∧
      Timely selector recording language := by
  obtain ⟨trials, rfl, creation, rfl⟩ := course_createEngines course
  refine ⟨initialized_of_course creation, ?_⟩
  rintro selector rfl recording language
  have trialsGenuine : Selector.Genuine trials := by
    intro kind engine member
    exact genuine kind engine (List.mem_map.mpr ⟨_, member, rfl⟩)
  have timely : Timely selector recording language :=
    ⟨fun role engine here => run_ask selector role engine recording language here,
      perform_transcribe selector recording language⟩
  refine ⟨?_, timely⟩
  intro calls result transcribing
  exact served_of_asked (Selector.standIn?_of_created creation trialsGenuine)
    (Selector.course_transcribe transcribing)

/-- With both engines at hand the worker is ready with the conformer, and a conformer that gives
no answer in time is replaced. -/
theorem engines_serve_late :
    ∃ settings : Settings,
      let selector : Selector :=
        ⟨⟨.conformer, "one"⟩, some ⟨.whisper, "two"⟩, optionsOf settings⟩
      let recording : Recording := ⟨"audio.wav", 1.0⟩
      let transcript : Transcript := ⟨some "three", none, none⟩
      let exchanges : List StartExchange :=
        [⟨.createEngine .conformer, .ok ⟨.conformer, "one"⟩⟩,
          ⟨.createEngine .whisper, .ok ⟨.whisper, "two"⟩⟩]
      let calls : List Work.Exchange :=
        [selector.call recording "mr" .primary none,
          selector.call recording "mr" .fallback (some (.ok transcript))]
      let result : Except Failure Transcription := .ok ⟨transcript, ⟨.whisper, "two"⟩, true⟩
      Course (createEngines settings {}) exchanges (.ok selector, ⟨.ready, "indic-conformer"⟩) ∧
        Initialized settings exchanges (.ok selector) ⟨.ready, "indic-conformer"⟩ ∧
        Course (selector.transcribe recording "mr") calls result ∧
        ∃ first later, Served selector recording "mr" first later calls result := by
  have ranged : ("DEDUP_TTL_SECS", 1000 * 365 * 86400) ∈ rangedVariables := by decide
  obtain ⟨loaded, _⟩ := load_numberAlone ranged (show 60 ≤ Text.max64 by decide)
  refine ⟨{ loaded with engine := .conformer, fallbackEnabled := true }, ?_⟩
  intro selector recording transcript exchanges calls result
  have creating : Course
      (createEngines { loaded with engine := .conformer, fallbackEnabled := true } {}) exchanges
      (.ok selector, ⟨.ready, "indic-conformer"⟩) :=
    .ask _ _ _ (.ask _ _ _ (.done _))
  have transcribing : Course (selector.transcribe recording "mr") calls result :=
    .ask _ _ _ (.ask _ _ _ (.done _))
  have genuine : ∀ kind engine, (⟨.createEngine kind, .ok engine⟩ : StartExchange) ∈ exchanges →
      engine.kind = kind := by
    intro kind engine member
    rcases List.mem_cons.mp member with same | rest
    · cases same
      rfl
    · cases List.mem_singleton.mp rest
      rfl
  obtain ⟨initialized, serves⟩ := engines_serve _ {} _ exchanges (.ok selector) creating genuine
  exact ⟨creating, initialized, transcribing,
    (serves selector rfl recording "mr").1 calls result transcribing⟩

end Scribe.Worker
