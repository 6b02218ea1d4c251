import Scribe.Proofs.Dialogue.Course
import Scribe.Work.Processor

/-!
# What the handling of a message leaves behind

Of all that a worker asks of its surroundings only three things last: a record that is
sent, the wait for its delivery, and a job id that is remembered.  The effects of a course
are these exchanges in their order; everything that is proved about the handling of a
message says which effects it had.
-/

namespace Scribe.Work

open Scribe.Dialogue

/-- A request of a worker with its answer. -/
abbrev Exchange := Dialogue.Exchange Request Request.Answer

/-- The producer took a record. -/
def sent (record : Broker.Record) : Exchange := ⟨.send record, .ok ()⟩

/-- The producer delivered what it had taken. -/
def flushed (timeout : Time.Span) : Exchange := ⟨.flush timeout, .ok ()⟩

/-- A job id went into the window of completed jobs. -/
def noted (jobId : String) : Exchange := ⟨.remember jobId, ()⟩

/-- Whether an exchange leaves something behind. -/
def isEffect : Exchange → Bool
  | ⟨.send _, _⟩ => true
  | ⟨.flush _, _⟩ => true
  | ⟨.remember _, _⟩ => true
  | _ => false

/-- Whether the producer refused a record or did not deliver it. -/
def hasFailed : Exchange → Bool
  | ⟨.send _, .error _⟩ => true
  | ⟨.flush _, .error _⟩ => true
  | _ => false

/-- The job id that an exchange puts into the window. -/
def remembered? : Exchange → Option String
  | ⟨.remember jobId, _⟩ => some jobId
  | _ => none

/-- What a course leaves behind, in order. -/
def effects (exchanges : List Exchange) : List Exchange := exchanges.filter isEffect

/-- The job ids that a course puts into the window, in order. -/
def remembered (exchanges : List Exchange) : List String := exchanges.filterMap remembered?

@[simp] theorem effects_nil : effects [] = [] := rfl
@[simp] theorem remembered_nil : remembered [] = [] := rfl

@[simp] theorem effects_append (early late : List Exchange) :
    effects (early ++ late) = effects early ++ effects late :=
  List.filter_append _ _

@[simp] theorem remembered_append (early late : List Exchange) :
    remembered (early ++ late) = remembered early ++ remembered late :=
  List.filterMap_append

theorem effects_cons_of_not {exchange : Exchange} (none : isEffect exchange = false)
    (rest : List Exchange) : effects (exchange :: rest) = effects rest := by
  simp [effects, none]

theorem effects_cons_of {exchange : Exchange} (lasts : isEffect exchange = true)
    (rest : List Exchange) : effects (exchange :: rest) = exchange :: effects rest := by
  simp [effects, lasts]

theorem remembered_cons_of_not {exchange : Exchange} (none : remembered? exchange = none)
    (rest : List Exchange) : remembered (exchange :: rest) = remembered rest := by
  simp [remembered, none]

theorem mem_of_mem_effects {exchange : Exchange} {exchanges : List Exchange}
    (member : exchange ∈ effects exchanges) : exchange ∈ exchanges :=
  (List.mem_filter.mp member).1

/-- What is remembered is among the effects. -/
theorem remembered_effects (exchanges : List Exchange) :
    remembered (effects exchanges) = remembered exchanges := by
  induction exchanges with
  | nil => rfl
  | cons exchange rest ih =>
      obtain ⟨question, answer⟩ := exchange
      cases question with
      | remember jobId =>
          rw [effects_cons_of rfl]
          exact congrArg (jobId :: ·) ih
      | send record =>
          rw [effects_cons_of rfl]
          exact ih
      | flush timeout =>
          rw [effects_cons_of rfl]
          exact ih
      | _ =>
          rw [effects_cons_of_not rfl]
          exact ih

/-- The first effect comes before every other one. -/
theorem mem_of_first_effect {first other : Exchange} {early late rest : List Exchange}
    (lasts : isEffect other = true) (differs : other ≠ first)
    (left : effects (early ++ other :: late) = first :: rest) : first ∈ early := by
  rw [effects_append, effects_cons_of lasts] at left
  apply mem_of_mem_effects
  cases before : effects early with
  | nil =>
      rw [before] at left
      injection left with same
      exact absurd same differs
  | cons one others =>
      rw [before] at left
      injection left with same
      rw [same]
      exact List.mem_cons_self

theorem course_request_bind_iff {α : Type} {wanted : Request} {next : wanted.Answer → Errand α}
    {exchanges : List Exchange} {value : α} :
    Course (request wanted >>= next) exchanges value ↔
      ∃ answer rest, exchanges = ⟨wanted, answer⟩ :: rest ∧ Course (next answer) rest value :=
  course_query_bind_iff

/-! ## Publishing -/

/-- How the publication of a record can go. -/
inductive Published (timeout : Time.Span) (record : Broker.Record) :
    List Exchange → Except Broker.Error Unit → Prop
  | refused (error : Broker.Error) :
      Published timeout record [⟨.send record, .error error⟩] (.error error)
  | undelivered (error : Broker.Error) :
      Published timeout record [sent record, ⟨.flush timeout, .error error⟩] (.error error)
  | delivered : Published timeout record [sent record, flushed timeout] (.ok ())

theorem course_publish {timeout : Time.Span} {record : Broker.Record}
    {exchanges : List Exchange} {result : Except Broker.Error Unit}
    (course : Course (RetryPolicy.publish timeout record) exchanges result) :
    Published timeout record exchanges result := by
  obtain ⟨answer, rest, rfl, later⟩ := course_request_bind_iff.mp course
  cases answer with
  | error error =>
      obtain ⟨rfl, rfl⟩ := course_pure_iff.mp later
      exact .refused error
  | ok _ =>
      obtain rfl := course_query_iff.mp later
      cases result with
      | error error => exact .undelivered error
      | ok _ => exact .delivered

theorem Published.of_ok {timeout : Time.Span} {record : Broker.Record}
    {exchanges : List Exchange} (published : Published timeout record exchanges (.ok ())) :
    exchanges = [sent record, flushed timeout] := by
  cases published
  rfl

/-- A record that was not published leaves a failed call. -/
theorem Published.of_error {timeout : Time.Span} {record : Broker.Record}
    {exchanges : List Exchange} {error : Broker.Error}
    (published : Published timeout record exchanges (.error error)) :
    (∃ exchange ∈ exchanges, hasFailed exchange = true) ∧ remembered exchanges = [] := by
  cases published with
  | refused => exact ⟨⟨_, List.mem_cons_self, rfl⟩, rfl⟩
  | undelivered => exact ⟨⟨_, List.mem_cons_of_mem _ List.mem_cons_self, rfl⟩, rfl⟩

/-! ## Errands that leave nothing behind -/

/-- Whatever is answered, nothing is left behind. -/
def IsQuiet {α : Type} (errand : Errand α) : Prop :=
  ∀ exchanges value, Course errand exchanges value → effects exchanges = []

theorem isQuiet_pure {α : Type} (value : α) : IsQuiet (pure value : Errand α) := by
  intro exchanges result course
  obtain ⟨rfl, rfl⟩ := course_pure_iff.mp course
  rfl

theorem IsQuiet.bind {α β : Type} {errand : Errand α} {next : α → Errand β}
    (first : IsQuiet errand) (rest : ∀ value, IsQuiet (next value)) :
    IsQuiet (errand >>= next) := by
  intro exchanges result course
  obtain ⟨early, late, middle, rfl, courseFirst, courseRest⟩ := course_bind_iff.mp course
  rw [effects_append, first _ _ courseFirst, rest middle _ _ courseRest]
  rfl

theorem isQuiet_request {wanted : Request} (none : ∀ answer, isEffect ⟨wanted, answer⟩ = false) :
    IsQuiet (request wanted) := by
  intro exchanges answer course
  obtain rfl := course_query_iff.mp course
  rw [effects_cons_of_not (none answer)]
  rfl

theorem isQuiet_ask (selector : Selector) (role : EngineRole) (engine : Engine)
    (recording : Recording) (language : String) :
    IsQuiet (selector.ask role engine recording language) := by
  unfold Selector.ask
  apply IsQuiet.bind (isQuiet_request fun _ => rfl)
  intro reply
  exact isQuiet_pure _

theorem isQuiet_transcribe (selector : Selector) (recording : Recording) (language : String) :
    IsQuiet (selector.transcribe recording language) := by
  unfold Selector.transcribe
  apply (isQuiet_ask selector _ _ recording language).bind
  intro heard
  cases heard with
  | ok transcription => exact isQuiet_pure _
  | error failure =>
      dsimp only
      split
      · exact isQuiet_pure _
      · exact isQuiet_ask selector _ _ recording language

theorem isQuiet_prepare (processor : Processor) (job : Job) (scratch : Audio.Scratch) :
    IsQuiet (processor.prepare job scratch) := by
  unfold Processor.prepare
  apply IsQuiet.bind (isQuiet_request fun _ => rfl)
  intro fetched
  cases fetched with
  | error failure => exact isQuiet_pure _
  | ok _ =>
      apply IsQuiet.bind (isQuiet_request fun _ => rfl)
      intro _
      apply IsQuiet.bind (isQuiet_request fun _ => rfl)
      intro converted
      cases converted with
      | error failure => exact isQuiet_pure _
      | ok recording =>
          dsimp only
          split
          · exact isQuiet_pure _
          · exact isQuiet_pure _

/-- Surroundings that know no job as completed and answer whatever else they are asked, but
for a producer that may refuse every record. -/
def obliging (taking : Except Broker.Error Unit) : (wanted : Request) → wanted.Answer
  | .isCompleted _ => false
  | .drawNumber => 0
  | .drawJitter => .none
  | .now => ⟨⟨2026, 1, 1⟩, 12, 0, 0, 0, 0⟩
  | .transcribe _ _ _ _ => some (.ok ⟨some "one two", none, none⟩)
  | .convert scratch => .ok ⟨scratch.wave, 1.0⟩
  | .makeDirectory _ => .ok ()
  | .fetch _ _ _ _ => .ok ()
  | .send _ => taking
  | .flush _ => .ok ()
  | .remember _ => ()
  | .removeScratch _ => ()
  | .sleep _ => ()
  | .note _ => ()

/-- Obliging surroundings whose audio is fetched and converted as given. -/
def supplying (fetched : Except Failure Unit) (converted : Except Failure Recording) :
    (wanted : Request) → wanted.Answer
  | .fetch _ _ _ _ => fetched
  | .convert _ => converted
  | wanted => obliging (.ok ()) wanted

end Scribe.Work
