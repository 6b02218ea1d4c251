import Scribe.Proofs.Dedup.Window
import Scribe.Proofs.Run
import Scribe.Proofs.Work.Completion

/-!
# Jobs are completed once

One processor handles message after message with one window, which begins empty.  As long as
no wait for a delivery fails and nothing falls out of the window, the window holds exactly the
jobs that have a completed result.  So no job gets a second one, and a job that has one is
looked up and nothing else: nothing is sent about it any more, and no file is fetched for it.
-/

namespace Scribe

open Scribe.Delivery
open Scribe.Dialogue
open Scribe.Work

/-- One handling of a message: when the window was asked and when it was changed, all that
was asked of the surroundings, and what became of the message. -/
structure Work.Handling where
  message : Broker.Message
  asked : Time.Span
  changed : Time.Span
  exchanges : List Exchange
  disposition : Disposition

namespace Work.Handling

/-- The records that the producer took in some handlings, in order. -/
def log (handlings : List Handling) : List Broker.Record :=
  handlings.flatMap fun handling => taken handling.exchanges

theorem log_append (earlier : List Handling) (handling : Handling) :
    log (earlier ++ [handling]) = log earlier ++ taken handling.exchanges := by
  rw [log, List.flatMap_append, List.flatMap_singleton, ← log]

end Work.Handling

namespace Processor

/-- A processor handles a message and waits for no delivery in vain.  It finds one window and
leaves another; nothing that the window holds is too old, and nothing falls out of it. -/
structure Handles (processor : Processor) (window : Dedup.Window) (handling : Handling)
    (after : Dedup.Window) : Prop where
  course : Course (processor.process handling.message) handling.exchanges handling.disposition
  answered : AnsweredBy window handling.asked handling.exchanges
  leaves : after = windowAfter window handling.changed handling.exchanges
  flushes : Flushes handling.exchanges
  fresh : window.IsFresh handling.asked
  kept : ∀ jobId, jobId ∈ window.ids ∨ jobId ∈ remembered handling.exchanges →
    jobId ∈ after.ids

/-- A processor handles one message after another. -/
abbrev Series (processor : Processor) (start : Dedup.Window) :
    List Handling → Dedup.Window → Prop :=
  Run processor.Handles start

/-! ## The window and the log -/

theorem mem_ids_of_insert_all {window : Dedup.Window} {now : Time.Span}
    {jobIds : List String} {jobId : String}
    (inside : jobId ∈ (jobIds.foldl (fun window jobId => window.insert now jobId) window).ids) :
    jobId ∈ window.ids ∨ jobId ∈ jobIds := by
  induction jobIds generalizing window with
  | nil => exact Or.inl inside
  | cons first rest ih =>
      rcases ih inside with held | later
      · rcases Dedup.Window.mem_ids_of_insert held with before | rfl
        · exact Or.inl before
        · exact Or.inr List.mem_cons_self
      · exact Or.inr (List.mem_cons_of_mem first later)

theorem Handles.mem_ids_iff {processor : Processor} {window after : Dedup.Window}
    {handling : Handling} (handles : processor.Handles window handling after)
    {jobId : String} :
    jobId ∈ after.ids ↔ jobId ∈ window.ids ∨ jobId ∈ remembered handling.exchanges := by
  constructor
  · rw [handles.leaves]
    exact mem_ids_of_insert_all
  · exact handles.kept jobId

/-- A job that the window does not hold is unknown, and one that it holds is known. -/
theorem Handles.known_iff {processor : Processor} {window after : Dedup.Window}
    {handling : Handling} (handles : processor.Handles window handling after)
    {jobId : String} {known : Bool}
    (asked : ⟨.isCompleted jobId, known⟩ ∈ handling.exchanges) :
    known = true ↔ jobId ∈ window.ids := by
  rw [handles.answered jobId known asked]
  exact Dedup.Window.contains_iff handles.fresh

/-- No job is completed twice in the log of some handlings, and the window holds the jobs that
are completed in it. -/
structure Settled (processor : Processor) (handlings : List Handling)
    (window : Dedup.Window) : Prop where
  once : (Handling.log handlings).Pairwise fun first second =>
    ∀ jobId, ¬ (processor.IsCompleted jobId first ∧ processor.IsCompleted jobId second)
  held : ∀ jobId, jobId ∈ window.ids ↔
    ∃ record ∈ Handling.log handlings, processor.IsCompleted jobId record

theorem settled_nil {processor : Processor} {start : Dedup.Window}
    (empty : start.entries = []) : Settled processor [] start := by
  constructor
  · exact List.Pairwise.nil
  · intro jobId
    simp [Dedup.Window.ids, Handling.log, empty]

theorem Settled.step {processor : Processor} {earlier : List Handling}
    {window after : Dedup.Window} {handling : Handling}
    (settled : Settled processor earlier window)
    (handles : processor.Handles window handling after) :
    Settled processor (earlier ++ [handling]) after := by
  have concerns := concerns_of_process handles.course handles.flushes
  constructor
  · rw [Handling.log_append]
    refine List.pairwise_append.mpr ⟨settled.once, concerns.once, ?_⟩
    intro first earlier second later jobId both
    -- The later record makes its job remembered, which only an unknown job is; the earlier one
    -- has the window hold it.
    have remembers := concerns.mem_remembered_iff.mpr ⟨second, later, both.2⟩
    have held := (settled.held jobId).mpr ⟨first, earlier, both.1⟩
    have known := (handles.known_iff (concerns.unknown remembers)).mpr held
    cases known
  · intro jobId
    rw [Handling.log_append, handles.mem_ids_iff, settled.held, concerns.mem_remembered_iff]
    constructor
    · rintro (⟨record, member, completed⟩ | ⟨record, member, completed⟩)
      · exact ⟨record, List.mem_append_left _ member, completed⟩
      · exact ⟨record, List.mem_append_right _ member, completed⟩
    · rintro ⟨record, member, completed⟩
      rcases List.mem_append.mp member with earlier | later
      · exact Or.inl ⟨record, earlier, completed⟩
      · exact Or.inr ⟨record, later, completed⟩

theorem settled_of_series {processor : Processor} {start window : Dedup.Window}
    {handlings : List Handling} (series : Series processor start handlings window)
    (empty : start.entries = []) : Settled processor handlings window :=
  series.invariant (settled_nil empty) Settled.step

/-- What a series of handlings comes to: on top of the log and the window, a message about a
job that was completed before is a duplicate, and all that is done about it is to look the job
up and to count it. -/
structure CompletesOnce (processor : Processor) (handlings : List Handling)
    (window : Dedup.Window) : Prop extends Settled processor handlings window where
  duplicates : ∀ early handling late job, handlings = early ++ handling :: late →
    Job.parse handling.message.payload = .ok job →
    (∃ record ∈ Handling.log early, processor.IsCompleted job.jobId record) →
    handling.exchanges = [⟨.isCompleted job.jobId, true⟩, ⟨.note .jobDuplicate, ()⟩] ∧
      handling.disposition = .duplicate

/-- No job is completed twice in a series of handlings that begins with an empty window, and
nothing is done again about a completed one. -/
theorem completed_once (processor : Processor) (start window : Dedup.Window)
    (handlings : List Handling) (empty : start.entries = [])
    (series : Series processor start handlings window) :
    CompletesOnce processor handlings window := by
  refine ⟨settled_of_series series empty, ?_⟩
  intro early handling late job place read completed
  obtain ⟨middle, after, before, handles⟩ := series.split place
  obtain ⟨known, rest, exchanges, short⟩ := course_process_job read handles.course
  have held := ((settled_of_series before empty).held job.jobId).mpr completed
  have asked : ⟨.isCompleted job.jobId, known⟩ ∈ handling.exchanges := by
    rw [exchanges]
    exact List.mem_cons_self
  obtain rfl := (handles.known_iff asked).mpr held
  obtain ⟨rfl, duplicate⟩ := short rfl
  exact ⟨exchanges, duplicate⟩

/-- A job that is brought twice is completed the first time, and a duplicate the second time. -/
theorem completed_once_twice :
    let processor : Processor :=
      { directory := "/tmp/stt", selector := ⟨⟨.whisper, "small"⟩, none, {}⟩ }
    Dedup.Window.standard.entries = [] ∧
    ∃ handlings window, Series processor .standard handlings window ∧
      handlings.map Handling.disposition = [.completed, .duplicate] ∧
      CompletesOnce processor handlings window := by
  intro processor
  let message : Broker.Message :=
    { topic := "stt.jobs"
      partition := 0
      offset := 7
      key := none
      payload := ("\x7b\"jobId\":\"a\",\"taskId\":\"b\",\"audioUrl\":\"http://[::1]/\"," ++
        "\"createdAt\":\"2026-01-01T00:00:00Z\"\x7d").toUTF8
      headers := []
      id := "7-0" }
  let once := (processor.process message).follow (obliging (.ok ()))
  have course : Course (processor.process message) once.1 once.2 := course_follow _ _
  have completed : once.2 = .completed := by decide +kernel
  rw [completed] at course
  obtain ⟨job, read, remembers⟩ := remembered_of_completed course
  let window := Dedup.Window.standard.insert ⟨0⟩ job.jobId
  have new : ∀ jobId, jobId = job.jobId → jobId ∈ window.ids := by
    intro jobId same
    apply Dedup.Window.mem_ids_insert
    · intro entry member
      cases member
    · decide
    · decide
    · exact Or.inr same
  have first : processor.Handles .standard ⟨message, ⟨0⟩, ⟨0⟩, once.1, .completed⟩ window := by
    refine ⟨course, fun _ _ member => answer_of_mem_follow member, ?_, ?_, ?_, ?_⟩
    · rw [windowAfter, remembers]
      rfl
    · intro timeout error member
      cases answer_of_mem_follow member
    · intro entry member
      cases member
    · intro jobId known
      rw [remembers] at known
      rcases known with held | added
      · cases held
      · exact new jobId (List.mem_singleton.mp added)
  have fresh : window.IsFresh ⟨0⟩ := Dedup.Window.isFresh_insert _ _ _
  have second : processor.Handles window
      ⟨message, ⟨0⟩, ⟨0⟩, [⟨.isCompleted job.jobId, true⟩, ⟨.note .jobDuplicate, ()⟩],
        .duplicate⟩ window := by
    refine ⟨?_, ?_, rfl, ?_, fresh, ?_⟩
    · obtain ⟨payload, same⟩ := processor.process_of_job read
      rw [same]
      refine course_request_bind_iff.mpr ⟨true, _, rfl, ?_⟩
      exact course_request_bind_iff.mpr ⟨(), _, rfl, course_pure_iff.mpr ⟨rfl, rfl⟩⟩
    · intro jobId answer member
      rcases List.mem_cons.mp member with asked | noted
      · cases asked
        exact ((Dedup.Window.contains_iff fresh).mpr (new _ rfl)).symm
      · cases List.mem_singleton.mp noted
    · intro timeout error member
      rcases List.mem_cons.mp member with asked | noted
      · cases asked
      · cases List.mem_singleton.mp noted
    · intro jobId known
      rcases known with held | added
      · exact held
      · cases added
  have series := (Run.none.next _ first).next _ second
  exact ⟨rfl, _, _, series, rfl, completed_once processor .standard _ _ rfl series⟩

end Processor

end Scribe
