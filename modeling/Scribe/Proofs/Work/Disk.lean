import Scribe.Proofs.Run
import Scribe.Proofs.Work.Stations

/-!
# The disk under a job

The collaborators that turn a job into a transcript may write whatever they like, but only to
the two paths that they are given.  The files at these paths are removed once the collaborators
are done, be it with a transcript or with a failure, and before anything else is done about the
job: the disk is then as it was before, but for these two paths, at which there is nothing.
-/

namespace Scribe

open Scribe.Delivery
open Scribe.Dialogue
open Scribe.Work

namespace Work

/-- What there is at each path. -/
abbrev Disk := String → Option ByteArray

/-- The disk with nothing at some paths. -/
def Disk.without (disk : Disk) (paths : List String) : Disk :=
  fun path => if path ∈ paths then none else disk path

theorem Disk.without_of_none {disk : Disk} {paths : List String} (none : ∀ path, path ∉ paths) :
    disk.without paths = disk :=
  funext fun path => if_neg (none path)

/-- The paths that a request gives to a collaborator. -/
def Request.given : Request → List String
  | .fetch _ scratch _ _ => scratch.paths
  | .convert scratch => scratch.paths
  | _ => []

/-- The paths that a course gives to collaborators. -/
def given (exchanges : List Exchange) : List String :=
  exchanges.flatMap fun exchange => exchange.question.given

/-- What can become of the disk in an exchange: a collaborator changes it at most at the paths
given to it and to the others, a removal takes the files away, and nothing else changes it. -/
def Alters (own : List String) (before : Disk) (exchange : Exchange) (after : Disk) : Prop :=
  match exchange.question with
  | .fetch _ _ _ _ => ∀ path ∉ own, after path = before path
  | .convert _ => ∀ path ∉ own, after path = before path
  | .transcribe _ _ _ _ => ∀ path ∉ own, after path = before path
  | .removeScratch scratch => after = before.without scratch.paths
  | _ => after = before

/-- Whether a request has to do with the files of a job. -/
def Request.concernsFiles : Request → Bool
  | .fetch _ _ _ _ | .convert _ | .transcribe _ _ _ _ | .removeScratch _ => true
  | _ => false

/-- Whether a request removes files. -/
def Request.removes : Request → Bool
  | .removeScratch _ => true
  | _ => false

/-- The files that a request removes. -/
def Request.removal? : Request → Option Audio.Scratch
  | .removeScratch scratch => some scratch
  | _ => none

theorem Request.removal?_eq_some_iff {request : Request} {scratch : Audio.Scratch} :
    request.removal? = some scratch ↔ request = .removeScratch scratch := by
  cases request <;> simp [removal?]

variable {own : List String} {before after : Disk} {exchange : Exchange}
  {exchanges : List Exchange}

theorem Alters.same (alters : Alters own before exchange after)
    (apart : exchange.question.concernsFiles = false) : after = before := by
  obtain ⟨question, answer⟩ := exchange
  cases question <;> first | exact alters | cases apart

theorem Alters.outside (alters : Alters own before exchange after)
    (keeps : exchange.question.removes = false) : ∀ path ∉ own, after path = before path := by
  obtain ⟨question, answer⟩ := exchange
  intro path foreign
  cases question <;> first | exact alters path foreign | exact congrFun alters path | cases keeps

/-- Without a request about files the disk stays as it is. -/
theorem same_of_run (run : Run (Alters own) before exchanges after)
    (apart : ∀ exchange ∈ exchanges, exchange.question.concernsFiles = false) :
    after = before := by
  induction run with
  | none => rfl
  | next run step last ih =>
      rw [last.same (apart step (by simp))]
      exact ih fun exchange member => apart exchange (List.mem_append_left _ member)

/-- Until files are removed the disk stays as it is but for the paths that are given. -/
theorem outside_of_run (run : Run (Alters own) before exchanges after)
    (keeps : ∀ exchange ∈ exchanges, exchange.question.removes = false) :
    ∀ path ∉ own, after path = before path := by
  induction run with
  | none => exact fun path _ => rfl
  | next run step last ih =>
      intro path foreign
      rw [last.outside (keeps step (by simp)) path foreign]
      exact ih (fun exchange member => keeps exchange (List.mem_append_left _ member)) path foreign

theorem given_append (early late : List Exchange) :
    given (early ++ late) = given early ++ given late :=
  List.flatMap_append

theorem given_of_apart (apart : ∀ exchange ∈ exchanges, exchange.question.concernsFiles = false) :
    given exchanges = [] := by
  rw [given, List.flatMap_eq_nil_iff]
  intro exchange member
  have here := apart exchange member
  obtain ⟨question, answer⟩ := exchange
  cases question <;> first | rfl | cases here

theorem concernsFiles_of_aftermath {question : Request} (allowed : isAftermath question = true) :
    question.concernsFiles = false := by
  cases question <;> first | rfl | cases allowed

end Work

namespace Processor

variable {processor : Processor} {job : Job} {scratch : Audio.Scratch} {exchanges : List Exchange}

/-- The collaborators of a job are given the paths of its files, and nothing is removed as long
as they are at work. -/
structure Confined (scratch : Audio.Scratch) (exchanges : List Exchange) : Prop where
  given : ∀ exchange ∈ exchanges, exchange.question.given ⊆ scratch.paths
  keeps : ∀ exchange ∈ exchanges, exchange.question.removes = false

theorem Confined.append {early late : List Exchange} (first : Confined scratch early)
    (rest : Confined scratch late) : Confined scratch (early ++ late) :=
  ⟨List.forall_mem_append.mpr ⟨first.given, rest.given⟩,
    List.forall_mem_append.mpr ⟨first.keeps, rest.keeps⟩⟩

theorem confined_of_plain (plain : ∀ exchange ∈ exchanges,
    exchange.question.given = [] ∧ exchange.question.removes = false) :
    Confined scratch exchanges := by
  refine ⟨fun exchange member => ?_, fun exchange member => (plain exchange member).2⟩
  rw [(plain exchange member).1]
  exact List.nil_subset _

theorem Prepared.confined {result : Except Failure Recording}
    (prepared : Prepared processor job scratch exchanges result) :
    Confined scratch exchanges := by
  cases prepared <;> constructor <;>
    simp [fetched, Request.given, Request.removes]

theorem asked_confined {selector : Selector} {recording : Recording} {language : String}
    {result : Except Failure Transcription}
    (asked : Selector.Asked selector recording language exchanges result) :
    Confined scratch exchanges := by
  apply confined_of_plain
  cases asked <;> simp [Selector.call, Request.given, Request.removes]

theorem published_confined {timeout : Time.Span} {record : Broker.Record}
    {told : Except Broker.Error Unit} (published : Published timeout record exchanges told) :
    Confined scratch exchanges := by
  apply confined_of_plain
  cases published <;> simp [sent, flushed, Request.given, Request.removes]

theorem Carried.confined {language : String} {result : Except StageFailure Unit}
    (carried : Carried processor job language scratch exchanges result) :
    Confined scratch exchanges := by
  have marked (now : Time.Stamp) :
      Confined scratch [(⟨.note .transcribed, ()⟩ : Exchange), ⟨.now, now⟩] :=
    confined_of_plain (by simp [Request.given, Request.removes])
  have settled : Confined scratch (settling job) :=
    confined_of_plain (by simp [settling, Request.given, Request.removes])
  cases carried with
  | unprepared prepared => exact prepared.confined
  | unheard prepared asked => exact prepared.confined.append (asked_confined asked)
  | unpublished prepared asked published =>
      exact prepared.confined.append
        ((asked_confined asked).append ((marked _).append (published_confined published)))
  | through prepared asked published =>
      exact prepared.confined.append ((asked_confined asked).append
        ((marked _).append ((published_confined published).append settled)))

theorem Prepared.paths_subset {result : Except Failure Recording}
    (prepared : Prepared processor job scratch exchanges result) :
    scratch.paths ⊆ given exchanges := by
  cases prepared <;> exact List.subset_append_left _ _

/-- The stages of a job are given the paths of its files, and no other ones. -/
theorem Carried.mem_given_iff {language : String} {result : Except StageFailure Unit}
    (carried : Carried processor job language scratch exchanges result) {path : String} :
    path ∈ Work.given exchanges ↔ path ∈ scratch.paths := by
  constructor
  · intro member
    obtain ⟨exchange, inside, given⟩ := List.mem_flatMap.mp member
    exact carried.confined.given exchange inside given
  · intro member
    cases carried with
    | unprepared prepared => exact prepared.paths_subset member
    | unheard prepared _ | unpublished prepared _ _ | through prepared _ _ =>
        rw [given_append]
        exact List.mem_append_left _ (prepared.paths_subset member)

/-! ## The disk in the end -/

variable {own : List String} {before after : Disk}

/-- Nothing is left at the paths that the work on a job has given away. -/
theorem Worked.cleaned {result : Except StageFailure Unit}
    (worked : Worked processor job exchanges result)
    (owned : ∀ path, path ∈ own ↔ path ∈ Work.given exchanges)
    (run : Run (Alters own) before exchanges after) : after = before.without own := by
  cases worked with
  | homeless failure =>
      rw [same_of_run run (by simp [Request.concernsFiles])]
      exact (Disk.without_of_none fun path member => by cases (owned path).mp member).symm
  | @housed drawn scratch exchanges result named carried =>
      have place : ⟨.makeDirectory processor.directory, .ok ()⟩ :: ⟨.drawNumber, drawn⟩ ::
          (exchanges ++ [⟨.removeScratch scratch, ()⟩]) =
          [⟨.makeDirectory processor.directory, .ok ()⟩, (⟨.drawNumber, drawn⟩ : Exchange)] ++
            (exchanges ++ [⟨.removeScratch scratch, ()⟩]) := rfl
      obtain ⟨first, opening, rest⟩ := run.of_append place
      obtain ⟨second, working, removing⟩ := rest.of_append rfl
      have untouched := same_of_run opening (by simp [Request.concernsFiles])
      have kept := outside_of_run working carried.confined.keeps
      have removed : after = second.without scratch.paths := removing.of_singleton
      have whole (path : String) : path ∈ own ↔ path ∈ scratch.paths := by
        rw [owned, place, given_append, given_append, ← carried.mem_given_iff]
        simp [Work.given, Request.given]
      rw [removed]
      funext path
      by_cases member : path ∈ scratch.paths
      · simp [Disk.without, member, whole]
      · have foreign : path ∉ own := fun inside => member ((whole path).mp inside)
        simp only [Disk.without, if_neg member, if_neg foreign]
        rw [kept path foreign, untouched]

/-- In the end the disk is as it was, with nothing at the paths that were given away. -/
theorem cleaned_of_traced {message : Broker.Message} {disposition : Disposition}
    (traced : Traced processor message exchanges disposition)
    (run : Run (Alters (given exchanges)) before exchanges after) :
    after = before.without (given exchanges) := by
  have unconcerned {payload : Option Json} {job : Option Job} {failed : StageFailure}
      {late : List Exchange} {end_ : Disposition}
      (failing : Course (processor.fail message payload job failed) late end_) :
      ∀ exchange ∈ late, exchange.question.concernsFiles = false :=
    fun exchange member => concernsFiles_of_aftermath
      (isAftermath_fail processor message payload job failed _ _ failing exchange member)
  cases traced with
  | refused _ _ failing =>
      have apart := unconcerned failing
      rw [same_of_run run apart, given_of_apart apart]
      rfl
  | duplicate =>
      have same := same_of_run run (by simp [Request.concernsFiles])
      rw [same]
      rfl
  | completed _ worked =>
      obtain ⟨first, opening, rest⟩ := run.of_append (List.singleton_append).symm
      rw [same_of_run opening (by simp [Request.concernsFiles])] at rest
      exact worked.cleaned (fun _ => Iff.rfl) rest
  | @broken payload job failed early late _ _ _ worked failing =>
      have apart := unconcerned failing
      obtain ⟨first, opening, rest⟩ := run.of_append (List.singleton_append).symm
      obtain ⟨second, working, last⟩ := rest.of_append rfl
      rw [same_of_run opening (by simp [Request.concernsFiles])] at working
      rw [same_of_run last apart]
      refine worked.cleaned (fun path => ?_) working
      rw [← List.singleton_append, given_append, given_append, given_of_apart apart]
      simp [Work.given, Request.given]

end Processor

end Scribe
