import Scribe.Proofs.Engine.Selection
import Scribe.Proofs.Work.Handling

/-!
# The courses of a job

A job stops where a stage of it fails, and its course tells which one that was: each way in
which the stages can end is listed with all that was asked until then.  What follows a failure
asks nothing of the collaborators that do the work; it waits, looks at the clock, counts, and
hands records to the producer, of which there are two at most.
-/

namespace Scribe

open Scribe.Delivery
open Scribe.Dialogue
open Scribe.Work

/-! ## What a payload is read as -/

namespace Job

/-- A payload is decoded exactly if its bytes are JSON. -/
theorem decodePayload_toOption (payload : ByteArray) :
    (decodePayload payload).toOption = (Json.read payload).toOption := by
  unfold decodePayload
  split
  next empty =>
    obtain rfl := ByteArray.size_eq_zero_iff.mp empty
    have unread : (Json.read ByteArray.empty).toOption.isNone := by decide +kernel
    exact (Option.isNone_iff_eq_none.mp unread).symm
  next =>
    cases Json.read payload with
    | ok json => rfl
    | error fault => rfl

theorem not_retryable_of_decodePayload {payload : ByteArray} {failure : Failure}
    (refused : decodePayload payload = .error failure) : failure.retryable = false := by
  unfold decodePayload at refused
  split at refused
  · cases refused
    rfl
  · split at refused
    · cases refused
    · cases refused
      rfl

theorem not_retryable_of_ofJson {json : Json} {failure : Failure}
    (refused : ofJson json = .error failure) : failure.retryable = false := by
  unfold ofJson at refused
  split at refused
  · cases refused
    rfl
  · split at refused
    · cases refused
      rfl
    · cases refused

/-- No further attempt can turn a payload into a job. -/
theorem not_retryable_of_parse {payload : ByteArray} {failure : Failure}
    (refused : parse payload = .error failure) : failure.retryable = false := by
  unfold parse at refused
  split at refused
  next decoded =>
    cases refused
    exact not_retryable_of_decodePayload decoded
  next => exact not_retryable_of_ofJson refused

end Job

namespace Work

/-! ## What follows a failure -/

/-- What is asked for when a stage has failed. -/
def isAftermath : Request → Bool
  | .note _ | .drawJitter | .sleep _ | .send _ | .flush _ | .now => true
  | _ => false

/-- Whatever is answered, nothing else is asked for. -/
def IsAftermath {α : Type} (errand : Errand α) : Prop :=
  ∀ exchanges value, Course errand exchanges value →
    ∀ exchange ∈ exchanges, isAftermath exchange.question = true

theorem isAftermath_pure {α : Type} (value : α) : IsAftermath (pure value : Errand α) := by
  intro exchanges result course exchange member
  obtain ⟨rfl, _⟩ := course_pure_iff.mp course
  cases member

theorem IsAftermath.bind {α β : Type} {errand : Errand α} {next : α → Errand β}
    (first : IsAftermath errand) (rest : ∀ value, IsAftermath (next value)) :
    IsAftermath (errand >>= next) := by
  intro exchanges result course exchange member
  obtain ⟨early, late, middle, rfl, courseFirst, courseRest⟩ := course_bind_iff.mp course
  rcases List.mem_append.mp member with before | behind
  · exact first _ _ courseFirst exchange before
  · exact rest middle _ _ courseRest exchange behind

theorem isAftermath_request {wanted : Request} (allowed : isAftermath wanted = true) :
    IsAftermath (request wanted) := by
  intro exchanges answer course exchange member
  obtain rfl := course_query_iff.mp course
  obtain rfl := List.mem_singleton.mp member
  exact allowed

theorem isAftermath_publish (timeout : Time.Span) (record : Broker.Record) :
    IsAftermath (RetryPolicy.publish timeout record) := by
  apply (isAftermath_request rfl).bind
  intro taken
  cases taken with
  | error error => exact isAftermath_pure _
  | ok _ => exact isAftermath_request rfl

theorem isAftermath_handle (policy : RetryPolicy) (message : Broker.Message) (stage : String)
    (failure : Failure) (payload : Option Json) :
    IsAftermath (policy.handle message stage failure payload) := by
  unfold RetryPolicy.handle
  dsimp only
  split
  · apply (isAftermath_request rfl).bind
    intro jitter
    apply (isAftermath_request rfl).bind
    intro _
    apply (isAftermath_publish _ _).bind
    intro published
    cases published with
    | error error => exact isAftermath_pure _
    | ok _ => exact (isAftermath_request rfl).bind fun _ => isAftermath_pure _
  · apply (isAftermath_request rfl).bind
    intro now
    apply (isAftermath_publish _ _).bind
    intro published
    cases published with
    | error error => exact isAftermath_pure _
    | ok _ => exact (isAftermath_request rfl).bind fun _ => isAftermath_pure _

end Work

namespace Processor

/-! ## The stages of a job -/

/-- The download of a job's audio, with its answer. -/
def fetched (processor : Processor) (job : Job) (scratch : Audio.Scratch)
    (answer : Except Failure Unit) : Exchange :=
  ⟨.fetch job.audioUrl scratch processor.downloadTimeout processor.maxBytes, answer⟩

/-- How a job gets to a recording. -/
inductive Prepared (processor : Processor) (job : Job) (scratch : Audio.Scratch) :
    List Exchange → Except Failure Recording → Prop
  | unfetched (failure : Failure) :
      Prepared processor job scratch [processor.fetched job scratch (.error failure)]
        (.error failure)
  | unconverted (failure : Failure) :
      Prepared processor job scratch
        [processor.fetched job scratch (.ok ()), ⟨.note .downloaded, ()⟩,
          ⟨.convert scratch, .error failure⟩]
        (.error failure)
  | tooLong (recording : Recording) (long : recording.seconds > processor.maxSeconds) :
      Prepared processor job scratch
        [processor.fetched job scratch (.ok ()), ⟨.note .downloaded, ()⟩,
          ⟨.convert scratch, .ok recording⟩]
        (.error (tooLong processor.maxSeconds))
  | ready (recording : Recording) (fits : ¬ recording.seconds > processor.maxSeconds) :
      Prepared processor job scratch
        [processor.fetched job scratch (.ok ()), ⟨.note .downloaded, ()⟩,
          ⟨.convert scratch, .ok recording⟩]
        (.ok recording)

theorem course_prepare {processor : Processor} {job : Job} {scratch : Audio.Scratch}
    {exchanges : List Exchange} {result : Except Failure Recording}
    (course : Course (processor.prepare job scratch) exchanges result) :
    Prepared processor job scratch exchanges result := by
  obtain ⟨downloaded, _, rfl, after⟩ := course_request_bind_iff.mp course
  cases downloaded with
  | error failure =>
      obtain ⟨rfl, rfl⟩ := course_pure_iff.mp after
      exact .unfetched failure
  | ok _ =>
      obtain ⟨_, _, rfl, noted⟩ := course_request_bind_iff.mp after
      obtain ⟨converted, _, rfl, checking⟩ := course_request_bind_iff.mp noted
      cases converted with
      | error failure =>
          obtain ⟨rfl, rfl⟩ := course_pure_iff.mp checking
          exact .unconverted failure
      | ok recording =>
          by_cases long : recording.seconds > processor.maxSeconds
          · simp only [if_pos long] at checking
            obtain ⟨rfl, rfl⟩ := course_pure_iff.mp checking
            exact .tooLong recording long
          · simp only [if_neg long] at checking
            obtain ⟨rfl, rfl⟩ := course_pure_iff.mp checking
            exact .ready recording long

/-- How the publication of a result can go: as that of its record. -/
theorem published_of_publish {processor : Processor} {job : Job} {result : JobResult}
    {exchanges : List Exchange} {answer : Except Failure Unit}
    (course : Course (processor.publish job result) exchanges answer) :
    ∃ told, Published processor.retry.flushTimeout (processor.resultRecord job result)
        exchanges told ∧
      answer = told.mapError fun error => (ErrorChain.broker error).convert := by
  obtain ⟨early, late, told, rfl, publishing, after⟩ := course_bind_iff.mp course
  have published := Work.course_publish publishing
  refine ⟨told, ?_⟩
  cases told with
  | error error =>
      obtain ⟨rfl, rfl⟩ := course_pure_iff.mp after
      rw [List.append_nil]
      exact ⟨published, rfl⟩
  | ok _ =>
      obtain ⟨rfl, rfl⟩ := course_pure_iff.mp after
      rw [List.append_nil]
      exact ⟨published, rfl⟩

/-- What is asked once the result of a job is delivered. -/
def settling (job : Job) : List Exchange :=
  [⟨.remember job.jobId, ()⟩, ⟨.note .jobCompleted, ()⟩, ⟨.note .processed, ()⟩]

/-- How a job goes from its files to its result. -/
inductive Carried (processor : Processor) (job : Job) (language : String)
    (scratch : Audio.Scratch) : List Exchange → Except StageFailure Unit → Prop
  | unprepared {exchanges : List Exchange} {failure : Failure}
      (prepared : Prepared processor job scratch exchanges (.error failure)) :
      Carried processor job language scratch exchanges (.error ⟨.download, failure⟩)
  | unheard {early late : List Exchange} {recording : Recording} {failure : Failure}
      (prepared : Prepared processor job scratch early (.ok recording))
      (asked : Selector.Asked processor.selector recording language late (.error failure)) :
      Carried processor job language scratch (early ++ late) (.error ⟨.transcribe, failure⟩)
  | unpublished {early middle late : List Exchange} {recording : Recording}
      {transcription : Transcription} {now : Time.Stamp} {error : Broker.Error}
      (prepared : Prepared processor job scratch early (.ok recording))
      (asked : Selector.Asked processor.selector recording language middle (.ok transcription))
      (published : Published processor.retry.flushTimeout
        (processor.resultRecord job (completedResult job transcription now)) late
        (.error error)) :
      Carried processor job language scratch
        (early ++ (middle ++ ⟨.note .transcribed, ()⟩ :: ⟨.now, now⟩ :: late))
        (.error ⟨.publish, (ErrorChain.broker error).convert⟩)
  | through {early middle late : List Exchange} {recording : Recording}
      {transcription : Transcription} {now : Time.Stamp}
      (prepared : Prepared processor job scratch early (.ok recording))
      (asked : Selector.Asked processor.selector recording language middle (.ok transcription))
      (published : Published processor.retry.flushTimeout
        (processor.resultRecord job (completedResult job transcription now)) late (.ok ())) :
      Carried processor job language scratch
        (early ++ (middle ++ ⟨.note .transcribed, ()⟩ :: ⟨.now, now⟩ :: (late ++ settling job)))
        (.ok ())

theorem carried_of_carryOut {processor : Processor} {job : Job} {language : String}
    {scratch : Audio.Scratch} {exchanges : List Exchange} {result : Except StageFailure Unit}
    (course : Course (processor.carryOut job language scratch) exchanges result) :
    Carried processor job language scratch exchanges result := by
  obtain ⟨early, _, prepared, rfl, preparing, after⟩ := course_bind_iff.mp course
  have ready := course_prepare preparing
  cases prepared with
  | error failure =>
      obtain ⟨rfl, rfl⟩ := course_pure_iff.mp after
      rw [List.append_nil]
      exact .unprepared ready
  | ok recording =>
      obtain ⟨middle, _, heard, rfl, transcribing, onward⟩ := course_bind_iff.mp after
      have asked := Selector.course_transcribe transcribing
      cases heard with
      | error failure =>
          obtain ⟨rfl, rfl⟩ := course_pure_iff.mp onward
          rw [List.append_nil]
          exact .unheard ready asked
      | ok transcription =>
          obtain ⟨_, _, rfl, completing⟩ := course_request_bind_iff.mp onward
          obtain ⟨now, _, rfl, writing⟩ := course_request_bind_iff.mp completing
          obtain ⟨late, _, answer, rfl, publishing, final⟩ := course_bind_iff.mp writing
          obtain ⟨told, published, rfl⟩ := published_of_publish publishing
          cases told with
          | error error =>
              obtain ⟨rfl, rfl⟩ := course_pure_iff.mp final
              rw [List.append_nil]
              exact .unpublished ready asked published
          | ok _ =>
              obtain ⟨_, _, rfl, remembering⟩ := course_request_bind_iff.mp final
              obtain ⟨_, _, rfl, noting⟩ := course_request_bind_iff.mp remembering
              obtain ⟨_, _, rfl, done⟩ := course_request_bind_iff.mp noting
              obtain ⟨rfl, rfl⟩ := course_pure_iff.mp done
              exact .through ready asked published

/-- How a job goes with its scratch files, which are removed whatever became of it. -/
inductive Worked (processor : Processor) (job : Job) :
    List Exchange → Except StageFailure Unit → Prop
  | homeless (failure : Failure) :
      Worked processor job [⟨.makeDirectory processor.directory, .error failure⟩]
        (.error ⟨.download, failure⟩)
  | housed (drawn : Nat) {scratch : Audio.Scratch} {exchanges : List Exchange}
      {result : Except StageFailure Unit}
      (named : scratch = .of processor.directory job.jobId drawn)
      (carried : Carried processor job (processor.selector.resolveLanguage job.languageHint)
        scratch exchanges result) :
      Worked processor job
        (⟨.makeDirectory processor.directory, .ok ()⟩ :: ⟨.drawNumber, drawn⟩ ::
          (exchanges ++ [⟨.removeScratch scratch, ()⟩]))
        result

theorem worked_of_runJob {processor : Processor} {job : Job} {exchanges : List Exchange}
    {result : Except StageFailure Unit}
    (course : Course (processor.runJob job) exchanges result) :
    Worked processor job exchanges result := by
  obtain ⟨made, _, rfl, after⟩ := course_request_bind_iff.mp course
  cases made with
  | error failure =>
      obtain ⟨rfl, rfl⟩ := course_pure_iff.mp after
      exact .homeless failure
  | ok _ =>
      obtain ⟨drawn, _, rfl, drawing⟩ := course_request_bind_iff.mp after
      obtain ⟨early, _, outcome, rfl, carrying, removing⟩ := course_bind_iff.mp drawing
      obtain ⟨_, _, rfl, final⟩ := course_request_bind_iff.mp removing
      obtain ⟨rfl, rfl⟩ := course_pure_iff.mp final
      exact .housed drawn rfl (carried_of_carryOut carrying)

/-! ## What follows a broken job -/

theorem isAftermath_reportFailed (processor : Processor) (job : Job) (failure : Failure) :
    IsAftermath (processor.reportFailed job failure) := by
  apply (isAftermath_request rfl).bind
  intro now
  apply IsAftermath.bind
  · apply (isAftermath_publish _ _).bind
    intro published
    cases published with
    | error error => exact isAftermath_pure _
    | ok _ => exact isAftermath_pure _
  · intro answer
    cases answer with
    | error failure => exact isAftermath_pure _
    | ok _ => exact isAftermath_pure _

theorem isAftermath_fail (processor : Processor) (message : Broker.Message)
    (payload : Option Json) (job : Option Job) (failed : StageFailure) :
    IsAftermath (processor.fail message payload job failed) := by
  apply (isAftermath_request rfl).bind
  intro _
  apply (isAftermath_handle processor.retry message _ _ payload).bind
  intro routed
  cases routed with
  | deadLettered =>
      apply (isAftermath_request rfl).bind
      intro _
      cases job with
      | none => exact isAftermath_pure _
      | some job => exact isAftermath_reportFailed processor job failed.failure
  | _ => exact isAftermath_pure _

/-! ## The whole handling -/

/-- How the handling of a message can go. -/
inductive Traced (processor : Processor) (message : Broker.Message) :
    List Exchange → Disposition → Prop
  | refused {payload : Option Json} {failure : Failure} {exchanges : List Exchange}
      {disposition : Disposition} (decoded : payload = (Json.read message.payload).toOption)
      (read : Job.parse message.payload = .error failure)
      (failing : Course (processor.fail message payload none ⟨.validation, failure⟩) exchanges
        disposition) :
      Traced processor message exchanges disposition
  | duplicate {job : Job} (read : Job.parse message.payload = .ok job) :
      Traced processor message
        [⟨.isCompleted job.jobId, true⟩, ⟨.note .jobDuplicate, ()⟩] .duplicate
  | completed {job : Job} {exchanges : List Exchange}
      (read : Job.parse message.payload = .ok job)
      (worked : Worked processor job exchanges (.ok ())) :
      Traced processor message (⟨.isCompleted job.jobId, false⟩ :: exchanges) .completed
  | broken {payload : Option Json} {job : Job} {failed : StageFailure}
      {early late : List Exchange} {disposition : Disposition}
      (decoded : payload = (Json.read message.payload).toOption)
      (read : Job.parse message.payload = .ok job)
      (worked : Worked processor job early (.error failed))
      (failing : Course (processor.fail message payload (some job) failed) late disposition) :
      Traced processor message (⟨.isCompleted job.jobId, false⟩ :: (early ++ late)) disposition

theorem traced_of_process {processor : Processor} {message : Broker.Message}
    {exchanges : List Exchange} {disposition : Disposition}
    (course : Course (processor.process message) exchanges disposition) :
    Traced processor message exchanges disposition := by
  unfold process at course
  cases decoded : Job.decodePayload message.payload with
  | error failure =>
      have undecoded := Job.decodePayload_toOption message.payload
      have read : Job.parse message.payload = .error failure := by simp [Job.parse, decoded]
      rw [decoded] at undecoded
      simp only [decoded] at course
      exact .refused undecoded read course
  | ok payload =>
      have known := Job.decodePayload_toOption message.payload
      rw [decoded] at known
      cases read : Job.ofJson payload with
      | error failure =>
          have unread : Job.parse message.payload = .error failure := by
            simp [Job.parse, decoded, read]
          simp only [decoded, read] at course
          exact .refused known unread course
      | ok job =>
          have parsed : Job.parse message.payload = .ok job := by
            simp [Job.parse, decoded, read]
          simp only [decoded, read] at course
          obtain ⟨lately, _, rfl, after⟩ := course_request_bind_iff.mp course
          cases lately with
          | true =>
              obtain ⟨_, _, rfl, final⟩ := course_request_bind_iff.mp after
              obtain ⟨rfl, rfl⟩ := course_pure_iff.mp final
              exact .duplicate parsed
          | false =>
              obtain ⟨early, late, result, rfl, running, onward⟩ := course_bind_iff.mp after
              have worked := worked_of_runJob running
              cases result with
              | ok _ =>
                  obtain ⟨rfl, rfl⟩ := course_pure_iff.mp onward
                  rw [List.append_nil]
                  exact .completed parsed worked
              | error failed => exact .broken known parsed worked onward

end Processor

end Scribe
