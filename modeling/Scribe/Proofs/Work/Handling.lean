import Scribe.Dedup.Window
import Scribe.Proofs.Work.Routes

/-!
# What becomes of a message

The handling of a message ends in one of three ways: the job was completed lately, the job
is completed now, or a stage has failed and the failure is routed.  Each way says which
effects the handling had.  From them it follows that a disposition can be believed,
whatever the collaborators and the producer do: it names what was published and delivered,
and only a completed job enters the window.
-/

namespace Scribe.Processor

open Scribe.Delivery
open Scribe.Dialogue
open Scribe.Work

/-- The result that reports a job as completed. -/
def completedResult (job : Job) (transcription : Transcription) (now : Time.Stamp) :
    JobResult :=
  .completed job transcription.transcript transcription.engine.kind.name
    transcription.engine.version now

/-- What completing a job leaves behind: the result is sent and delivered before the job is
remembered. -/
def completion (processor : Processor) (job : Job) (transcription : Transcription)
    (now : Time.Stamp) : List Exchange :=
  [sent (processor.resultRecord job (completedResult job transcription now)),
    flushed processor.retry.flushTimeout, noted job.jobId]

/-! ## The stages of a job -/

/-- A job is carried through and leaves its completion behind, or it breaks off and nothing
is remembered. -/
inductive Ran (processor : Processor) (job : Job) :
    List Exchange → Except StageFailure Unit → Prop
  | through (transcription : Transcription) (now : Time.Stamp) {exchanges : List Exchange}
      (left : effects exchanges = processor.completion job transcription now) :
      Ran processor job exchanges (.ok ())
  | broke (failed : StageFailure) {exchanges : List Exchange}
      (nothing : remembered exchanges = []) : Ran processor job exchanges (.error failed)

/-- A dialogue without effects remembers nothing. -/
theorem remembered_of_effects {exchanges : List Exchange} (none : effects exchanges = []) :
    remembered exchanges = [] := by
  rw [← remembered_effects, none]
  rfl

/-- What has no effects may come before. -/
theorem Ran.after {processor : Processor} {job : Job} {early late : List Exchange}
    {result : Except StageFailure Unit} (ran : Ran processor job late result)
    (quiet : effects early = []) : Ran processor job (early ++ late) result := by
  cases ran with
  | through transcription now left =>
      refine .through transcription now ?_
      rw [effects_append, quiet, left]
      rfl
  | broke failed nothing =>
      refine .broke failed ?_
      rw [remembered_append, remembered_of_effects quiet, nothing]
      rfl

theorem Ran.cons {processor : Processor} {job : Job} {first : Exchange}
    {rest : List Exchange} {result : Except StageFailure Unit}
    (ran : Ran processor job rest result) (none : isEffect first = false) :
    Ran processor job (first :: rest) result :=
  ran.after (effects_cons_of_not none [])

/-- What has no effects may come behind. -/
theorem Ran.before {processor : Processor} {job : Job} {early late : List Exchange}
    {result : Except StageFailure Unit} (ran : Ran processor job early result)
    (quiet : effects late = []) : Ran processor job (early ++ late) result := by
  cases ran with
  | through transcription now left =>
      refine .through transcription now ?_
      rw [effects_append, quiet, left]
      rfl
  | broke failed nothing =>
      refine .broke failed ?_
      rw [remembered_append, remembered_of_effects quiet, nothing]
      rfl

theorem course_complete {processor : Processor} {job : Job} {transcription : Transcription}
    {exchanges : List Exchange} {result : Except StageFailure Unit}
    (course : Course (processor.complete job transcription) exchanges result) :
    Ran processor job exchanges result := by
  obtain ⟨now, _, rfl, writing⟩ := course_request_bind_iff.mp course
  obtain ⟨early, late, answer, rfl, publishing, after⟩ := course_bind_iff.mp writing
  rcases course_publish publishing with ⟨rfl, rfl⟩ | ⟨failure, rfl, _, nothing⟩
  · obtain ⟨_, _, rfl, remembering⟩ := course_request_bind_iff.mp after
    obtain ⟨_, _, rfl, noting⟩ := course_request_bind_iff.mp remembering
    obtain ⟨_, _, rfl, final⟩ := course_request_bind_iff.mp noting
    obtain ⟨rfl, rfl⟩ := course_pure_iff.mp final
    exact .through transcription now rfl
  · obtain ⟨rfl, rfl⟩ := course_pure_iff.mp after
    refine .broke _ ?_
    rw [remembered_cons_of_not rfl, remembered_append, nothing]
    rfl

theorem course_carryOut {processor : Processor} {job : Job} {language : String}
    {scratch : Audio.Scratch} {exchanges : List Exchange} {result : Except StageFailure Unit}
    (course : Course (processor.carryOut job language scratch) exchanges result) :
    Ran processor job exchanges result := by
  obtain ⟨early, late, prepared, rfl, preparing, after⟩ := course_bind_iff.mp course
  have quiet := isQuiet_prepare processor job scratch _ _ preparing
  cases prepared with
  | error failure =>
      obtain ⟨rfl, rfl⟩ := course_pure_iff.mp after
      rw [List.append_nil]
      exact .broke _ (remembered_of_effects quiet)
  | ok recording =>
      obtain ⟨middle, rest, heard, rfl, transcribing, onward⟩ := course_bind_iff.mp after
      have silent := isQuiet_transcribe processor.selector recording language _ _ transcribing
      apply Ran.after _ quiet
      cases heard with
      | error failure =>
          obtain ⟨rfl, rfl⟩ := course_pure_iff.mp onward
          rw [List.append_nil]
          exact .broke _ (remembered_of_effects silent)
      | ok transcription =>
          apply Ran.after _ silent
          obtain ⟨_, last, rfl, completing⟩ := course_request_bind_iff.mp onward
          exact (course_complete completing).cons rfl

theorem course_runJob {processor : Processor} {job : Job} {exchanges : List Exchange}
    {result : Except StageFailure Unit}
    (course : Course (processor.runJob job) exchanges result) :
    Ran processor job exchanges result := by
  obtain ⟨made, _, rfl, after⟩ := course_request_bind_iff.mp course
  cases made with
  | error failure =>
      obtain ⟨rfl, rfl⟩ := course_pure_iff.mp after
      exact .broke _ rfl
  | ok _ =>
      obtain ⟨drawn, _, rfl, drawing⟩ := course_request_bind_iff.mp after
      obtain ⟨early, late, outcome, rfl, carrying, removing⟩ := course_bind_iff.mp drawing
      obtain ⟨_, _, rfl, final⟩ := course_request_bind_iff.mp removing
      obtain ⟨rfl, rfl⟩ := course_pure_iff.mp final
      apply Ran.cons _ rfl
      apply Ran.cons _ rfl
      exact (course_carryOut carrying).before rfl

/-! ## The whole handling -/

/-- How a message comes to a failure, with what could be read of it. -/
inductive Fails (processor : Processor) (message : Broker.Message) :
    List Exchange → Option Json → Option Job → StageFailure → Prop
  | undecodable (failure : Failure)
      (decoded : Job.decodePayload message.payload = .error failure) :
      Fails processor message [] none none ⟨.validation, failure⟩
  | invalid (payload : Json) (failure : Failure)
      (decoded : Job.decodePayload message.payload = .ok payload)
      (read : Job.ofJson payload = .error failure) :
      Fails processor message [] (some payload) none ⟨.validation, failure⟩
  | broken (payload : Json) (job : Job) (failed : StageFailure) {exchanges : List Exchange}
      (decoded : Job.decodePayload message.payload = .ok payload)
      (read : Job.ofJson payload = .ok job)
      (running : Course (processor.runJob job) exchanges (.error failed)) :
      Fails processor message (⟨.isCompleted job.jobId, false⟩ :: exchanges) (some payload)
        (some job) failed

/-- How a message can be handled. -/
inductive Handled (processor : Processor) (message : Broker.Message) :
    List Exchange → Disposition → Prop
  | duplicate (job : Job) (read : Job.parse message.payload = .ok job) :
      Handled processor message
        [⟨.isCompleted job.jobId, true⟩, ⟨.note .jobDuplicate, ()⟩] .duplicate
  | completed (job : Job) (transcription : Transcription) (now : Time.Stamp)
      {exchanges : List Exchange} (read : Job.parse message.payload = .ok job)
      (left : effects exchanges = processor.completion job transcription now) :
      Handled processor message exchanges .completed
  | failed {early late : List Exchange} {payload : Option Json} {job : Option Job}
      {failure : StageFailure} {disposition : Disposition}
      (fails : Fails processor message early payload job failure)
      (routed : Failed processor message payload job failure late disposition) :
      Handled processor message (early ++ late) disposition

theorem course_process {processor : Processor} {message : Broker.Message}
    {exchanges : List Exchange} {disposition : Disposition}
    (course : Course (processor.process message) exchanges disposition) :
    Handled processor message exchanges disposition := by
  unfold process at course
  cases decoded : Job.decodePayload message.payload with
  | error failure =>
      simp only [decoded] at course
      exact .failed (.undecodable failure decoded) (course_fail course)
  | ok payload =>
      cases read : Job.ofJson payload with
      | error failure =>
          simp only [decoded, read] at course
          exact .failed (.invalid payload failure decoded read) (course_fail course)
      | ok job =>
          have parsed : Job.parse message.payload = .ok job := by
            unfold Job.parse
            rw [decoded]
            exact read
          simp only [decoded, read] at course
          obtain ⟨known, _, rfl, after⟩ := course_request_bind_iff.mp course
          cases known with
          | true =>
              obtain ⟨_, _, rfl, final⟩ := course_request_bind_iff.mp after
              obtain ⟨rfl, rfl⟩ := course_pure_iff.mp final
              exact .duplicate job parsed
          | false =>
              obtain ⟨early, late, result, rfl, running, onward⟩ := course_bind_iff.mp after
              cases result with
              | ok _ =>
                  obtain ⟨rfl, rfl⟩ := course_pure_iff.mp onward
                  cases course_runJob running with
                  | through transcription now left =>
                      refine .completed job transcription now parsed ?_
                      rw [List.append_nil, effects_cons_of_not rfl, left]
              | error failed =>
                  exact .failed (.broken payload job failed decoded read running)
                    (course_fail onward)

/-! ## Dispositions can be believed -/

/-- The window answers, at one time, whether a job was completed lately. -/
def AnsweredBy (window : Dedup.Window) (now : Time.Span) (exchanges : List Exchange) : Prop :=
  ∀ (jobId : String) (answer : Bool), ⟨.isCompleted jobId, answer⟩ ∈ exchanges →
    answer = window.contains now jobId

/-- The window with what a course remembers at one time. -/
def windowAfter (window : Dedup.Window) (now : Time.Span) (exchanges : List Exchange) :
    Dedup.Window :=
  (remembered exchanges).foldl (fun window jobId => window.insert now jobId) window

theorem windowAfter_of_nothing {window : Dedup.Window} {now : Time.Span}
    {exchanges : List Exchange} (nothing : remembered exchanges = []) :
    windowAfter window now exchanges = window := by
  rw [windowAfter, nothing]
  rfl

theorem Fails.nothing {processor : Processor} {message : Broker.Message}
    {exchanges : List Exchange} {payload : Option Json} {job : Option Job}
    {failure : StageFailure} (fails : Fails processor message exchanges payload job failure) :
    remembered exchanges = [] := by
  cases fails with
  | undecodable => rfl
  | invalid => rfl
  | broken payload job failed decoded read running =>
      rw [remembered_cons_of_not rfl]
      cases course_runJob running with
      | broke _ nothing => exact nothing

/-- A job is known when a message fails exactly if its payload is one. -/
theorem Fails.job_eq {processor : Processor} {message : Broker.Message}
    {exchanges : List Exchange} {payload : Option Json} {job : Option Job}
    {failure : StageFailure} (fails : Fails processor message exchanges payload job failure) :
    job = (Job.parse message.payload).toOption := by
  cases fails with
  | undecodable failure decoded => simp [Job.parse, decoded, Except.toOption]
  | invalid payload failure decoded read => simp [Job.parse, decoded, read, Except.toOption]
  | broken payload job failed decoded read => simp [Job.parse, decoded, read, Except.toOption]

theorem Failed.nothing {processor : Processor} {message : Broker.Message}
    {payload : Option Json} {job : Option Job} {failure : StageFailure}
    {exchanges : List Exchange} {disposition : Disposition}
    (failed : Failed processor message payload job failure exchanges disposition) :
    remembered exchanges = [] := by
  cases failed with
  | retried again published =>
      rw [← remembered_effects, published]
      rfl
  | gaveUp given reportedAt spent published =>
      rw [← remembered_effects, published]
      cases job with
      | none => rfl
      | some job => rfl
  | unresolved broken nothing => exact nothing

/-- What a disposition promises of the course that came to it, with a window that is asked
at one time and changed at another. -/
def Promises (processor : Processor) (message : Broker.Message) (window : Dedup.Window)
    (asked changed : Time.Span) (exchanges : List Exchange) : Disposition → Prop
  | .completed =>
      ∃ job transcription now, Job.parse message.payload = .ok job ∧
        effects exchanges =
          [sent (processor.resultRecord job (completedResult job transcription now)),
            flushed processor.retry.flushTimeout, noted job.jobId] ∧
        windowAfter window changed exchanges = window.insert changed job.jobId
  | .duplicate =>
      ∃ job, Job.parse message.payload = .ok job ∧
        window.contains asked job.jobId = true ∧
        exchanges = [⟨.isCompleted job.jobId, true⟩, ⟨.note .jobDuplicate, ()⟩] ∧
        windowAfter window changed exchanges = window
  | .retryScheduled =>
      ∃ early late payload job failed, exchanges = early ++ late ∧
        Fails processor message early payload job failed ∧
        failed.failure.retryable = true ∧ message.attempt < processor.retry.maxAttempts ∧
        effects late =
          [sent (processor.retry.retryRecord message (RetryPolicy.keyOf message payload)
              (message.attempt + 1)),
            flushed processor.retry.flushTimeout] ∧
        windowAfter window changed exchanges = window
  | .deadLettered =>
      ∃ early late payload job failed given reportedAt, exchanges = early ++ late ∧
        Fails processor message early payload job failed ∧
        (failed.failure.retryable = false ∨ processor.retry.maxAttempts ≤ message.attempt) ∧
        effects late =
          [sent (processor.retry.deadRecord (RetryPolicy.keyOf message payload)
              (DeadLetter.of message failed.stage.name failed.failure payload given)),
            flushed processor.retry.flushTimeout] ++
            processor.reported failed.failure reportedAt
              (Job.parse message.payload).toOption ∧
        windowAfter window changed exchanges = window
  | .unresolved =>
      ∃ early late payload job failed, exchanges = early ++ late ∧
        Fails processor message early payload job failed ∧
        (∃ exchange ∈ late, hasFailed exchange = true) ∧
        windowAfter window changed exchanges = window

theorem retries_iff {policy : RetryPolicy} {failure : Failure} {attempt : Nat} :
    policy.retries failure attempt = true ↔
      failure.retryable = true ∧ attempt < policy.maxAttempts := by
  simp [RetryPolicy.retries]

theorem not_retries_iff {policy : RetryPolicy} {failure : Failure} {attempt : Nat} :
    policy.retries failure attempt = false ↔
      failure.retryable = false ∨ policy.maxAttempts ≤ attempt := by
  cases retryable : failure.retryable <;> simp [RetryPolicy.retries, retryable]

/-- The disposition of a message tells the truth, whatever the window holds, whatever the
collaborators answer and whichever calls of the producer fail. -/
theorem process_truthful (processor : Processor) (message : Broker.Message)
    (window : Dedup.Window) (asked changed : Time.Span) (exchanges : List Exchange)
    (disposition : Disposition)
    (course : Course (processor.process message) exchanges disposition)
    (answered : AnsweredBy window asked exchanges) :
    Promises processor message window asked changed exchanges disposition := by
  cases course_process course with
  | duplicate job read =>
      refine ⟨job, read, ?_, rfl, rfl⟩
      exact (answered job.jobId true List.mem_cons_self).symm
  | completed job transcription now read left =>
      refine ⟨job, transcription, now, read, left, ?_⟩
      rw [windowAfter, ← remembered_effects, left]
      rfl
  | @failed early late payload job failure _ fails routed =>
      have unchanged : windowAfter window changed (early ++ late) = window := by
        apply windowAfter_of_nothing
        rw [remembered_append, fails.nothing, routed.nothing]
        rfl
      cases routed with
      | retried again published =>
          obtain ⟨retryable, below⟩ := retries_iff.mp again
          exact ⟨early, late, payload, job, failure, rfl, fails, retryable, below, published,
            unchanged⟩
      | gaveUp given reportedAt spent published =>
          rw [fails.job_eq] at published
          exact ⟨early, late, payload, job, failure, given, reportedAt, rfl, fails,
            not_retries_iff.mp spent, published, unchanged⟩
      | unresolved broken nothing =>
          exact ⟨early, late, payload, job, failure, rfl, fails, broken, unchanged⟩

/-- Surroundings that look into a window, and answer as given whatever else they are asked. -/
def knowing (window : Dedup.Window) (fixed : (wanted : Request) → wanted.Answer) :
    (wanted : Request) → wanted.Answer
  | .isCompleted jobId => window.contains ⟨0⟩ jobId
  | wanted => fixed wanted

/-- A job is completed, or given up with a failed result if its audio cannot be converted, or a
duplicate if the window holds it. -/
theorem process_truthful_job :
    let processor : Processor :=
      { directory := "/tmp/stt", selector := ⟨⟨.whisper, "small"⟩, none, {}⟩ }
    let message : Broker.Message :=
      { topic := "stt.jobs"
        partition := 0
        offset := 7
        key := none
        payload := ("\x7b\"jobId\":\"a\",\"taskId\":\"b\",\"audioUrl\":\"http://[::1]/\"," ++
          "\"createdAt\":\"2026-01-01T00:00:00Z\"\x7d").toUTF8
        headers := []
        id := "7-0" }
    let tells (window : Dedup.Window) (disposition : Disposition) : Prop :=
      ∃ exchanges, Course (processor.process message) exchanges disposition ∧
        AnsweredBy window ⟨0⟩ exchanges ∧
        Promises processor message window ⟨0⟩ ⟨0⟩ exchanges disposition
    tells .standard .completed ∧ tells .standard .deadLettered ∧
      tells (Dedup.Window.standard.insert ⟨0⟩ "a") .duplicate := by
  intro processor message tells
  let wave : Recording := ⟨"/tmp/stt/a.wav", 1.0⟩
  have told (window : Dedup.Window) (converted : Except Failure Recording)
      (disposition : Disposition)
      (came : ((processor.process message).follow
        (knowing window (supplying (.ok ()) converted))).2 = disposition) :
      tells window disposition := by
    let reply := knowing window (supplying (.ok ()) converted)
    have course := course_follow reply (processor.process message)
    have answered : AnsweredBy window ⟨0⟩ ((processor.process message).follow reply).1 :=
      fun _ _ member => answer_of_mem_follow member
    rw [came] at course
    exact ⟨_, course, answered,
      process_truthful processor message window ⟨0⟩ ⟨0⟩ _ disposition course answered⟩
  refine ⟨told .standard (.ok wave) .completed ?_,
    told .standard (.error (.of .unsupportedFormat "")) .deadLettered ?_,
    told _ (.ok wave) .duplicate ?_⟩
  · decide +kernel
  · decide +kernel
  · decide +kernel

end Scribe.Processor
