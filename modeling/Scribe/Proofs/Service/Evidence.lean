import Scribe.Proofs.Service.World

/-!
# Evidence of a settled message

A settled message has left something in the journal: a completed result of its job, a dead
letter together with a failed result if it was a job, or a copy of it that counts one
attempt more.  The journal only grows, so evidence stays.  What an errand was told is borne
out by the journal, and therefore the disposition that it comes to is.
-/

namespace Scribe.Service

open Scribe.Broker
open Scribe.Delivery
open Scribe.Dialogue
open Scribe.Work

variable {setup : Setup}

/-- The journal has a completed result of a job. -/
def CompletedFor (setup : Setup) (journal : List Record) (jobId : String) : Prop :=
  ∃ job transcription now, job.jobId = jobId ∧
    setup.processor.resultRecord job (Processor.completedResult job transcription now) ∈ journal

/-- The job of a message has come to its end: it is completed, or it is given up with a
dead letter, and reported as failed if it was a job. -/
inductive Ended (setup : Setup) (journal : List Record) (message : Message) : Prop
  | completed (job : Job) (read : Job.parse message.payload = .ok job)
      (done : CompletedFor setup journal job.jobId)
  | deadLettered (stage : String) (failure : Failure) (payload : Option Json)
      (given : Time.Stamp)
      (dead : setup.processor.retry.deadRecord (RetryPolicy.keyOf message payload)
        (DeadLetter.of message stage failure payload given) ∈ journal)
      (reported : ∀ job, Job.parse message.payload = .ok job → ∃ now,
        setup.processor.resultRecord job (setup.processor.failedResult job failure now) ∈
          journal)

/-- The record at a place is a copy of a message that counts one attempt more. -/
def CopiedAt (setup : Setup) (journal : List Record) (message : Message) (place : Nat) : Prop :=
  ∃ key, journal[place]? =
    some (setup.processor.retry.retryRecord message key (message.attempt + 1))

/-- What a settled message has left in the journal. -/
inductive Evident (setup : Setup) (journal : List Record) (message : Message) : Prop
  | ended (ended : Ended setup journal message)
  | retried (index copy : Nat) (origin : message.id = setup.idOf index) (later : index < copy)
      (copied : CopiedAt setup journal message copy)

/-- Every id in the window belongs to a completed job. -/
def Truthful (setup : Setup) (journal : List Record) (window : Dedup.Window) : Prop :=
  ∀ entry ∈ window.entries, CompletedFor setup journal entry.id

/-- What an errand for the record at an index was told is true: records that were taken
stand behind that index, and jobs that are known are completed. -/
structure Borne (setup : Setup) (journal : List Record) (index : Nat)
    (past : List Exchange) : Prop where
  kept : ∀ record, sent record ∈ past → ∃ place, index < place ∧ journal[place]? = some record
  known : ∀ jobId, ⟨.isCompleted jobId, true⟩ ∈ past → CompletedFor setup journal jobId

/-! ## Growth of the journal -/

theorem getElem?_append_of_some {journal : List Record} {place : Nat} {record : Record}
    (found : journal[place]? = some record) (new : List Record) :
    (journal ++ new)[place]? = some record := by
  obtain ⟨inBounds, _⟩ := List.getElem?_eq_some_iff.mp found
  rw [List.getElem?_append_left inBounds]
  exact found

theorem CompletedFor.append {journal : List Record} {jobId : String}
    (completed : CompletedFor setup journal jobId) (new : List Record) :
    CompletedFor setup (journal ++ new) jobId := by
  obtain ⟨job, transcription, now, same, member⟩ := completed
  exact ⟨job, transcription, now, same, List.mem_append_left _ member⟩

theorem Ended.append {journal : List Record} {message : Message}
    (ended : Ended setup journal message) (new : List Record) :
    Ended setup (journal ++ new) message := by
  cases ended with
  | completed job read done => exact .completed job read (done.append new)
  | deadLettered stage failure payload given dead reported =>
      refine .deadLettered stage failure payload given (List.mem_append_left _ dead) ?_
      intro job read
      obtain ⟨now, member⟩ := reported job read
      exact ⟨now, List.mem_append_left _ member⟩

theorem Evident.append {journal : List Record} {message : Message}
    (evident : Evident setup journal message) (new : List Record) :
    Evident setup (journal ++ new) message := by
  cases evident with
  | ended ended => exact .ended (ended.append new)
  | retried index copy origin later copied =>
      obtain ⟨key, found⟩ := copied
      exact .retried index copy origin later ⟨key, getElem?_append_of_some found new⟩

theorem Truthful.append {journal : List Record} {window : Dedup.Window}
    (truthful : Truthful setup journal window) (new : List Record) :
    Truthful setup (journal ++ new) window := by
  intro entry member
  exact (truthful entry member).append new

theorem Borne.append {journal : List Record} {index : Nat} {past : List Exchange}
    (borne : Borne setup journal index past) (new : List Record) :
    Borne setup (journal ++ new) index past where
  kept := by
    intro record member
    obtain ⟨place, behind, found⟩ := borne.kept record member
    exact ⟨place, behind, getElem?_append_of_some found new⟩
  known := by
    intro jobId member
    exact (borne.known jobId member).append new

/-! ## The window -/

theorem Truthful.contains {journal : List Record} {window : Dedup.Window}
    (truthful : Truthful setup journal window) {now : Time.Span} {jobId : String}
    (contained : window.contains now jobId = true) : CompletedFor setup journal jobId := by
  obtain ⟨entry, member, fits⟩ := List.any_eq_true.mp contained
  have same : entry.id = jobId := by
    simp only [Bool.and_eq_true, beq_iff_eq] at fits
    exact fits.1
  rw [← same]
  exact truthful entry member

theorem Truthful.insert {journal : List Record} {window : Dedup.Window}
    (truthful : Truthful setup journal window) {jobId : String}
    (completed : CompletedFor setup journal jobId) (now : Time.Span) :
    Truthful setup journal (window.insert now jobId) := by
  intro entry member
  simp only [Dedup.Window.insert, Dedup.Window.shrink, Dedup.Window.expire] at member
  have kept := (List.mem_filter.mp (List.mem_of_mem_drop member)).1
  rcases List.mem_append.mp kept with old | new
  · exact truthful entry (List.mem_filter.mp old).1
  · cases List.mem_singleton.mp new
    exact completed

/-! ## Errands -/

theorem Borne.nil (journal : List Record) (index : Nat) : Borne setup journal index [] where
  kept := by
    intro record member
    cases member
  known := by
    intro jobId member
    cases member

theorem Borne.snoc {journal : List Record} {index : Nat} {past : List Exchange}
    {exchange : Exchange} (borne : Borne setup journal index past)
    (keeps : ∀ record, exchange = sent record →
      ∃ place, index < place ∧ journal[place]? = some record)
    (knows : ∀ jobId, exchange = ⟨.isCompleted jobId, true⟩ →
      CompletedFor setup journal jobId) : Borne setup journal index (past ++ [exchange]) where
  kept := by
    intro record member
    rcases List.mem_append.mp member with earlier | here
    · exact borne.kept record earlier
    · exact keeps record (List.mem_singleton.mp here).symm
  known := by
    intro jobId member
    rcases List.mem_append.mp member with earlier | here
    · exact borne.known jobId earlier
    · exact knows jobId (List.mem_singleton.mp here).symm

/-- The broker and the window tell the truth. -/
theorem Borne.answer {journal grown : List Record} {window changed : Dedup.Window}
    {index : Nat} {past : List Exchange} {wanted : Request} {answer : wanted.Answer}
    (borne : Borne setup journal index past) (truthful : Truthful setup journal window)
    (inside : index < journal.length)
    (answers : Answers journal window wanted answer grown changed) :
    Borne setup grown index (past ++ [⟨wanted, answer⟩]) := by
  cases answers with
  | isCompleted jobId now =>
      apply borne.snoc
      · intro record same
        cases same
      · intro other same
        injection same with sameRequest sameAnswer
        cases sameRequest
        exact truthful.contains sameAnswer
  | remember jobId now =>
      apply borne.snoc
      · intro record same
        cases same
      · intro other same
        cases same
  | taken record =>
      apply (borne.append [record]).snoc
      · intro other same
        cases same
        exact ⟨journal.length, inside, by simp⟩
      · intro other same
        cases same
  | refused record error =>
      apply borne.snoc
      · intro other same
        cases same
      · intro other same
        cases same
  | doubtful record error =>
      apply (borne.append [record]).snoc
      · intro other same
        cases same
      · intro other same
        cases same
  | elsewhere wanted answer isElsewhere_ =>
      apply borne.snoc
      · intro record same
        cases same
        cases isElsewhere_
      · intro other same
        cases same
        cases isElsewhere_

/-- Evidence for a disposition that settles the message: what was published is in the
journal. -/
theorem evident_of_course {journal : List Record} {index : Nat} {message : Message}
    {past : List Exchange} {disposition : Disposition}
    (course : Course (setup.processor.process message) past disposition)
    (settles : disposition.settles = true) (borne : Borne setup journal index past)
    (origin : message.id = setup.idOf index) : Evident setup journal message := by
  have inJournal : ∀ record, sent record ∈ past → record ∈ journal := by
    intro record member
    obtain ⟨place, _, found⟩ := borne.kept record member
    exact List.mem_of_getElem? found
  cases Processor.course_process course with
  | duplicate job read =>
      exact .ended (.completed job read (borne.known job.jobId List.mem_cons_self))
  | completed job transcription now read left =>
      refine .ended (.completed job read ⟨job, transcription, now, rfl, inJournal _ ?_⟩)
      apply mem_of_mem_effects
      rw [left]
      exact List.mem_cons_self
  | @failed early late payload job failure _ fails routed =>
      cases routed with
      | retried again published =>
          have member : sent (setup.processor.retry.retryRecord message
              (RetryPolicy.keyOf message payload) (message.attempt + 1)) ∈ early ++ late := by
            apply List.mem_append_right
            apply mem_of_mem_effects
            rw [published]
            exact List.mem_cons_self
          obtain ⟨copy, later, found⟩ := borne.kept _ member
          exact .retried index copy origin later ⟨_, found⟩
      | gaveUp given reportedAt spent published =>
          have inPast : ∀ record, sent record ∈ effects late → record ∈ journal := by
            intro record member
            exact inJournal record (List.mem_append_right _ (mem_of_mem_effects member))
          refine .ended (.deadLettered failure.stage.name failure.failure payload given
            (inPast _ ?_) ?_)
          · rw [published]
            exact List.mem_cons_self
          · intro job read
            refine ⟨reportedAt, inPast _ ?_⟩
            rw [published, fails.job_eq, read]
            simp [Processor.reported, Except.toOption]
      | unresolved => cases settles

instance (wanted : Request) : Nonempty wanted.Answer := by
  cases wanted with
  | isCompleted => exact ⟨true⟩
  | makeDirectory => exact ⟨.ok ()⟩
  | drawNumber => exact ⟨0⟩
  | fetch => exact ⟨.ok ()⟩
  | convert => exact ⟨.error (.of .internalError "")⟩
  | transcribe => exact ⟨none⟩
  | send => exact ⟨.ok ()⟩
  | flush => exact ⟨.ok ()⟩
  | now => exact ⟨⟨⟨0, 0, 0⟩, 0, 0, 0, 0, 0⟩⟩
  | drawJitter => exact ⟨.none⟩
  | _ => exact ⟨()⟩

/-- A job is remembered only after its completed result was taken. -/
theorem completed_of_remember {journal : List Record} {index : Nat} {message : Message}
    {past : List Exchange} {jobId : String}
    {next : (Request.remember jobId).Answer → Errand Disposition}
    (leads : Leads (setup.processor.process message) past (.ask (.remember jobId) next))
    (borne : Borne setup journal index past) : CompletedFor setup journal jobId := by
  obtain ⟨later, disposition, rest⟩ := exists_course (next ())
  have course := leads.course (course_ask_iff.mpr ⟨(), later, rfl, rest⟩)
  have remembers : jobId ∈ remembered (past ++ noted jobId :: later) := by
    rw [remembered_append]
    exact List.mem_append_right _ List.mem_cons_self
  generalize whole : past ++ noted jobId :: later = exchanges at remembers
  have course : Course (setup.processor.process message) exchanges disposition := by
    rw [← whole]
    exact course
  cases Processor.course_process course with
  | duplicate job read => cases remembers
  | failed fails routed =>
      rw [remembered_append, fails.nothing, routed.nothing] at remembers
      cases remembers
  | completed job transcription now read left =>
      have same : jobId = job.jobId := by
        rw [← remembered_effects, left] at remembers
        exact List.mem_singleton.mp remembers
      -- The result is the first effect, so it was taken before anything is remembered.
      have member : sent (setup.processor.resultRecord job
          (Processor.completedResult job transcription now)) ∈ past := by
        rw [← whole] at left
        apply mem_of_first_effect rfl _ left
        intro wrong
        cases wrong
      obtain ⟨place, _, found⟩ := borne.kept _ member
      exact ⟨job, transcription, now, same.symm, List.mem_of_getElem? found⟩

end Scribe.Service
