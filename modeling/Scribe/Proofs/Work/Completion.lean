import Scribe.Proofs.Broker.Headers
import Scribe.Proofs.Json.Written
import Scribe.Proofs.Work.Records
import Scribe.Proofs.Work.Stations

/-!
# What a handling completes

A job counts as completed when the topic of results has a record for it that says so.  If no
wait for a delivery fails, the handling of a message either leaves one such record and
remembers the job, or leaves none and remembers nothing: a job that breaks off has had no
record taken, and what is sent about a failure is a copy of the message, a dead letter or a
result that reports the failure.
-/

namespace Scribe

open Scribe.Delivery
open Scribe.Dialogue
open Scribe.Work

namespace Work

/-- Every wait for a delivery succeeds. -/
def Flushes (exchanges : List Exchange) : Prop :=
  ∀ (timeout : Time.Span) (error : Broker.Error),
    (⟨.flush timeout, .error error⟩ : Exchange) ∉ exchanges

theorem Flushes.left {early late : List Exchange} (flushes : Flushes (early ++ late)) :
    Flushes early :=
  fun timeout error member => flushes timeout error (List.mem_append_left late member)

theorem Flushes.right {early late : List Exchange} (flushes : Flushes (early ++ late)) :
    Flushes late :=
  fun timeout error member => flushes timeout error (List.mem_append_right early member)

theorem Flushes.tail {first : Exchange} {rest : List Exchange}
    (flushes : Flushes (first :: rest)) : Flushes rest :=
  fun timeout error member => flushes timeout error (List.mem_cons_of_mem first member)

/-- A record that was taken was asked for. -/
theorem requested_of_taken {record : Broker.Record} {exchanges : List Exchange}
    (member : record ∈ taken exchanges) : record ∈ requested exchanges :=
  List.mem_filterMap.mpr ⟨sent record, mem_taken.mp member, rfl⟩

/-- If waiting for a delivery does not fail, only a record that is refused is not published. -/
theorem Published.taken_of_error {timeout : Time.Span} {record : Broker.Record}
    {exchanges : List Exchange} {error : Broker.Error}
    (published : Published timeout record exchanges (.error error))
    (flushes : Flushes exchanges) : taken exchanges = [] := by
  cases published with
  | refused => rfl
  | undelivered =>
      exact absurd (List.mem_cons_of_mem _ List.mem_cons_self) (flushes timeout error)

end Work

namespace Processor

/-! ## A job that breaks off -/

theorem Prepared.untaken {processor : Processor} {job : Job} {scratch : Audio.Scratch}
    {exchanges : List Exchange} {result : Except Failure Recording}
    (prepared : Prepared processor job scratch exchanges result) : taken exchanges = [] := by
  cases prepared <;> rfl

theorem untaken_of_asked {selector : Selector} {recording : Recording} {language : String}
    {exchanges : List Exchange} {result : Except Failure Transcription}
    (asked : Selector.Asked selector recording language exchanges result) :
    taken exchanges = [] := by
  cases asked <;> rfl

theorem Carried.untaken {processor : Processor} {job : Job} {language : String}
    {scratch : Audio.Scratch} {exchanges : List Exchange} {failed : StageFailure}
    (carried : Carried processor job language scratch exchanges (.error failed))
    (flushes : Flushes exchanges) : taken exchanges = [] := by
  cases carried with
  | unprepared prepared => exact prepared.untaken
  | unheard prepared asked =>
      rw [taken_append, prepared.untaken, untaken_of_asked asked]
      rfl
  | unpublished prepared asked published =>
      have refused := published.taken_of_error flushes.right.right.tail.tail
      rw [taken_append, taken_append, prepared.untaken, untaken_of_asked asked,
        taken_cons_of_not rfl, taken_cons_of_not rfl, refused]
      rfl

/-- A job that breaks off has had no record taken. -/
theorem Worked.untaken {processor : Processor} {job : Job} {exchanges : List Exchange}
    {failed : StageFailure} (worked : Worked processor job exchanges (.error failed))
    (flushes : Flushes exchanges) : taken exchanges = [] := by
  cases worked with
  | homeless => rfl
  | housed drawn named carried =>
      rw [taken_cons_of_not rfl, taken_cons_of_not rfl, taken_append,
        carried.untaken flushes.tail.tail.left]
      rfl

/-! ## Records about a failure -/

/-- The records that may be asked for when a message has failed. -/
inductive Consequence (processor : Processor) (message : Broker.Message) :
    Broker.Record → Prop
  | copy (key : Option String) :
      Consequence processor message
        (processor.retry.retryRecord message key (message.attempt + 1))
  | dead (key : Option String) (letter : DeadLetter) :
      Consequence processor message (processor.retry.deadRecord key letter)
  | report (job : Job) (failure : Failure) (now : Time.Stamp) :
      Consequence processor message
        (processor.resultRecord job (processor.failedResult job failure now))

theorem requested_publish {processor : Processor} {job : Job} {result : JobResult}
    {exchanges : List Exchange} {answer : Except Failure Unit}
    (course : Course (processor.publish job result) exchanges answer) :
    requested exchanges = [processor.resultRecord job result] := by
  obtain ⟨early, late, told, rfl, publishing, after⟩ := course_bind_iff.mp course
  have published := (Work.course_publish publishing).requested
  cases told with
  | error error =>
      obtain ⟨rfl, _⟩ := course_pure_iff.mp after
      rw [List.append_nil]
      exact published
  | ok _ =>
      obtain ⟨rfl, _⟩ := course_pure_iff.mp after
      rw [List.append_nil]
      exact published

theorem requested_reportFailed {processor : Processor} {job : Job} {failure : Failure}
    {exchanges : List Exchange} {disposition : Disposition}
    (course : Course (processor.reportFailed job failure) exchanges disposition) :
    ∃ now, requested exchanges =
      [processor.resultRecord job (processor.failedResult job failure now)] := by
  obtain ⟨now, _, rfl, writing⟩ := course_request_bind_iff.mp course
  obtain ⟨early, late, answer, rfl, publishing, after⟩ := course_bind_iff.mp writing
  have published := requested_publish publishing
  refine ⟨now, ?_⟩
  cases answer with
  | ok _ =>
      obtain ⟨rfl, _⟩ := course_pure_iff.mp after
      rw [requested_cons_of_not rfl, List.append_nil]
      exact published
  | error failure =>
      obtain ⟨rfl, _⟩ := course_pure_iff.mp after
      rw [requested_cons_of_not rfl, List.append_nil]
      exact published

/-- The records that are handed to the producer when a stage has failed: the copy of the
message, or its dead letter with perhaps a result that reports the failure. -/
inductive Told (processor : Processor) (message : Broker.Message) (payload : Option Json)
    (job : Option Job) (failed : StageFailure) : List Broker.Record → Prop
  | copy (again : processor.retry.retries failed.failure message.attempt = true) :
      Told processor message payload job failed
        [processor.retry.retryRecord message (RetryPolicy.keyOf message payload)
          (message.attempt + 1)]
  | letter (given : Time.Stamp)
      (spent : processor.retry.retries failed.failure message.attempt = false) :
      Told processor message payload job failed
        [processor.retry.deadRecord (RetryPolicy.keyOf message payload)
          (DeadLetter.of message failed.stage.name failed.failure payload given)]
  | report (given reportedAt : Time.Stamp) {own : Job} (known : job = some own)
      (spent : processor.retry.retries failed.failure message.attempt = false) :
      Told processor message payload job failed
        [processor.retry.deadRecord (RetryPolicy.keyOf message payload)
            (DeadLetter.of message failed.stage.name failed.failure payload given),
          processor.resultRecord own (processor.failedResult own failed.failure reportedAt)]

theorem requested_handle {processor : Processor} {message : Broker.Message}
    {payload : Option Json} {job : Option Job} {failed : StageFailure}
    {exchanges : List Exchange} {disposition : Disposition}
    (course : Course (processor.retry.handle message failed.stage.name failed.failure payload)
      exchanges disposition) :
    Told processor message payload job failed (requested exchanges) := by
  cases again : processor.retry.retries failed.failure message.attempt with
  | true =>
      simp only [RetryPolicy.handle, again] at course
      rw [RetryPolicy.requested_retry course]
      exact .copy again
  | false =>
      simp only [RetryPolicy.handle, again] at course
      obtain ⟨given, asked⟩ := RetryPolicy.requested_giveUp course
      rw [asked]
      exact .letter given again

theorem requested_fail {processor : Processor} {message : Broker.Message}
    {payload : Option Json} {job : Option Job} {failed : StageFailure}
    {exchanges : List Exchange} {disposition : Disposition}
    (course : Course (processor.fail message payload job failed) exchanges disposition) :
    Told processor message payload job failed (requested exchanges) := by
  obtain ⟨_, _, rfl, noted⟩ := course_request_bind_iff.mp course
  obtain ⟨early, late, routed, rfl, routing, after⟩ := course_bind_iff.mp noted
  rw [requested_cons_of_not rfl, requested_append]
  cases RetryPolicy.course_handle routing with
  | retried =>
      obtain ⟨rfl, _⟩ := course_pure_iff.mp after
      rw [requested_nil, List.append_nil]
      exact requested_handle routing
  | failed =>
      obtain ⟨rfl, _⟩ := course_pure_iff.mp after
      rw [requested_nil, List.append_nil]
      exact requested_handle routing
  | gaveUp _ spent =>
      simp only [RetryPolicy.handle, spent] at routing
      obtain ⟨given, asked⟩ := RetryPolicy.requested_giveUp routing
      obtain ⟨_, rest, rfl, reporting⟩ := course_request_bind_iff.mp after
      rw [asked, requested_cons_of_not rfl]
      cases job with
      | none =>
          obtain ⟨rfl, _⟩ := course_pure_iff.mp reporting
          exact .letter given spent
      | some job =>
          obtain ⟨reportedAt, reported⟩ := requested_reportFailed reporting
          rw [reported]
          exact .report given reportedAt rfl spent

theorem consequence_of_fail {processor : Processor} {message : Broker.Message}
    {payload : Option Json} {job : Option Job} {failed : StageFailure}
    {exchanges : List Exchange} {disposition : Disposition}
    (course : Course (processor.fail message payload job failed) exchanges disposition) :
    ∀ record ∈ requested exchanges, Consequence processor message record := by
  have told := requested_fail course
  generalize requested exchanges = records at told
  intro record member
  cases told with
  | copy =>
      obtain rfl := List.mem_singleton.mp member
      exact .copy _
  | letter =>
      obtain rfl := List.mem_singleton.mp member
      exact .dead _ _
  | @report given reportedAt own =>
      rcases List.mem_cons.mp member with rfl | last
      · exact .dead _ _
      · obtain rfl := List.mem_singleton.mp last
        exact .report own failed.failure reportedAt

/-! ## Completed jobs -/

/-- A record says on the topic of results that a job is completed.  A result has no headers;
the copy of a message always has some, wherever it is sent. -/
structure IsCompleted (processor : Processor) (jobId : String) (record : Broker.Record) :
    Prop where
  topic : record.topic = processor.resultsTopic
  headers : record.headers = []
  payload : ∃ result : JobResult, result.jobId = jobId ∧ result.status = .completed ∧
    record.payload = result.toJson.bytes

theorem IsCompleted.same_job {processor : Processor} {jobId other : String}
    {record : Broker.Record} (first : processor.IsCompleted jobId record)
    (second : processor.IsCompleted other record) : jobId = other := by
  obtain ⟨result, rfl, _, written⟩ := first.payload
  obtain ⟨otherResult, rfl, _, writtenToo⟩ := second.payload
  exact (JobResult.same_of_bytes (written.symm.trans writtenToo)).1

theorem isCompleted_completedResult (processor : Processor) (job : Job)
    (transcription : Transcription) (now : Time.Stamp) :
    processor.IsCompleted job.jobId
      (processor.resultRecord job (completedResult job transcription now)) :=
  ⟨rfl, rfl, completedResult job transcription now, rfl, rfl, rfl⟩

theorem Consequence.not_completed {processor : Processor} {message : Broker.Message}
    {record : Broker.Record} (consequence : Consequence processor message record)
    (jobId : String) : ¬ processor.IsCompleted jobId record := by
  intro completed
  obtain ⟨result, _, status, written⟩ := completed.payload
  cases consequence with
  | copy key => exact Broker.Headers.set_ne_nil _ _ _ completed.headers
  | dead key letter => exact letter.bytes_ne_result result written
  | report job failure now =>
      have failed := (JobResult.same_of_bytes written).2
      rw [status] at failed
      cases failed

/-! ## The whole handling -/

theorem process_of_job (processor : Processor) {message : Broker.Message} {job : Job}
    (read : Job.parse message.payload = .ok job) :
    ∃ payload, processor.process message = processor.processJob message payload job := by
  cases decoded : Job.decodePayload message.payload with
  | error failure =>
      simp only [Job.parse, decoded] at read
      cases read
  | ok payload =>
      simp only [Job.parse, decoded] at read
      simp only [process, decoded, read]
      exact ⟨payload, rfl⟩

/-- A message whose payload is a job begins with a look at the window, and nothing follows
if the job was completed lately. -/
theorem course_process_job {processor : Processor} {message : Broker.Message} {job : Job}
    {exchanges : List Exchange} {disposition : Disposition}
    (read : Job.parse message.payload = .ok job)
    (course : Course (processor.process message) exchanges disposition) :
    ∃ known rest, exchanges = ⟨.isCompleted job.jobId, known⟩ :: rest ∧
      (known = true → rest = [⟨.note .jobDuplicate, ()⟩] ∧ disposition = .duplicate) := by
  obtain ⟨payload, same⟩ := processor.process_of_job read
  rw [same] at course
  obtain ⟨known, rest, rfl, after⟩ := course_request_bind_iff.mp course
  refine ⟨known, rest, rfl, ?_⟩
  rintro rfl
  obtain ⟨_, _, rfl, final⟩ := course_request_bind_iff.mp after
  obtain ⟨rfl, rfl⟩ := course_pure_iff.mp final
  exact ⟨rfl, rfl⟩

/-- What the handling of a message has to do with completed jobs. -/
inductive Concerns (processor : Processor) (exchanges : List Exchange) : Prop
  | completes (jobId : String) (record : Broker.Record)
      (unknown : (⟨.isCompleted jobId, false⟩ : Exchange) ∈ exchanges)
      (remembers : remembered exchanges = [jobId]) (leaves : taken exchanges = [record])
      (completed : processor.IsCompleted jobId record)
  | nothing (remembers : remembered exchanges = [])
      (leaves : ∀ record ∈ taken exchanges, ∀ jobId, ¬ processor.IsCompleted jobId record)

theorem Concerns.after {processor : Processor} {early late : List Exchange}
    (concerns : Concerns processor late) (forgets : remembered early = [])
    (untaken : taken early = []) : Concerns processor (early ++ late) := by
  cases concerns with
  | completes jobId record unknown remembers leaves completed =>
      refine .completes jobId record (List.mem_append_right early unknown) ?_ ?_ completed
      · rw [remembered_append, forgets, remembers]
        rfl
      · rw [taken_append, untaken, leaves]
        rfl
  | nothing remembers leaves =>
      refine .nothing ?_ ?_
      · rw [remembered_append, forgets, remembers]
        rfl
      · rw [taken_append, untaken]
        exact leaves

theorem Concerns.cons {processor : Processor} {first : Exchange} {rest : List Exchange}
    (forgets : remembered? first = none) (untaken : taken? first = none)
    (concerns : Concerns processor rest) : Concerns processor (first :: rest) :=
  concerns.after (remembered_cons_of_not forgets []) (taken_cons_of_not untaken [])

/-- The jobs that a handling completes are those that it remembers. -/
theorem Concerns.mem_remembered_iff {processor : Processor} {exchanges : List Exchange}
    (concerns : Concerns processor exchanges) {jobId : String} :
    jobId ∈ remembered exchanges ↔
      ∃ record ∈ taken exchanges, processor.IsCompleted jobId record := by
  cases concerns with
  | completes own record unknown remembers leaves completed =>
      rw [remembers, leaves]
      constructor
      · intro member
        obtain rfl := List.mem_singleton.mp member
        exact ⟨record, List.mem_singleton_self record, completed⟩
      · rintro ⟨other, member, same⟩
        obtain rfl := List.mem_singleton.mp member
        exact List.mem_singleton.mpr (same.same_job completed)
  | nothing remembers leaves =>
      rw [remembers]
      constructor
      · intro member
        cases member
      · rintro ⟨record, member, completed⟩
        exact absurd completed (leaves record member jobId)

/-- A job is completed only if the window did not know it. -/
theorem Concerns.unknown {processor : Processor} {exchanges : List Exchange}
    (concerns : Concerns processor exchanges) {jobId : String}
    (member : jobId ∈ remembered exchanges) :
    (⟨.isCompleted jobId, false⟩ : Exchange) ∈ exchanges := by
  cases concerns with
  | completes own record unknown remembers leaves completed =>
      rw [remembers] at member
      obtain rfl := List.mem_singleton.mp member
      exact unknown
  | nothing remembers leaves =>
      rw [remembers] at member
      cases member

theorem Concerns.once {processor : Processor} {exchanges : List Exchange}
    (concerns : Concerns processor exchanges) :
    (taken exchanges).Pairwise fun first second =>
      ∀ jobId, ¬ (processor.IsCompleted jobId first ∧ processor.IsCompleted jobId second) := by
  cases concerns with
  | completes own record unknown remembers leaves completed =>
      rw [leaves]
      exact List.pairwise_singleton _ record
  | nothing remembers leaves =>
      apply List.pairwise_of_forall_mem_list
      intro first member second _ jobId both
      exact leaves first member jobId both.1

theorem concerns_of_fail {processor : Processor} {message : Broker.Message}
    {payload : Option Json} {job : Option Job} {failed : StageFailure}
    {exchanges : List Exchange} {disposition : Disposition}
    (course : Course (processor.fail message payload job failed) exchanges disposition) :
    Concerns processor exchanges := by
  refine .nothing (course_fail course).nothing ?_
  intro record member
  exact (consequence_of_fail course record (requested_of_taken member)).not_completed

theorem concerns_of_processJob {processor : Processor} {message : Broker.Message}
    {payload : Json} {job : Job} {exchanges : List Exchange} {disposition : Disposition}
    (course : Course (processor.processJob message payload job) exchanges disposition)
    (flushes : Flushes exchanges) : Concerns processor exchanges := by
  obtain ⟨known, _, rfl, after⟩ := course_request_bind_iff.mp course
  cases known with
  | true =>
      obtain ⟨_, _, rfl, final⟩ := course_request_bind_iff.mp after
      obtain ⟨rfl, rfl⟩ := course_pure_iff.mp final
      exact .nothing rfl (fun record member => by cases member)
  | false =>
      obtain ⟨early, late, result, rfl, running, onward⟩ := course_bind_iff.mp after
      have ran := course_runJob running
      cases ran with
      | broke failed nothing =>
          have untaken := (worked_of_runJob running).untaken flushes.tail.left
          have whole := (concerns_of_fail onward).after nothing untaken
          exact Concerns.cons rfl rfl whole
      | through transcription now left =>
          obtain ⟨rfl, rfl⟩ := course_pure_iff.mp onward
          rw [List.append_nil]
          refine .completes job.jobId
            (processor.resultRecord job (completedResult job transcription now))
            List.mem_cons_self ?_ ?_
            (isCompleted_completedResult processor job transcription now)
          · rw [remembered_cons_of_not rfl, ← remembered_effects, left]
            rfl
          · rw [taken_cons_of_not rfl, ← taken_effects, left]
            rfl

/-- If no wait for a delivery fails, a handling completes one job that was not known as
completed, or none. -/
theorem concerns_of_process {processor : Processor} {message : Broker.Message}
    {exchanges : List Exchange} {disposition : Disposition}
    (course : Course (processor.process message) exchanges disposition)
    (flushes : Flushes exchanges) : Concerns processor exchanges := by
  cases decoded : Job.decodePayload message.payload with
  | error failure =>
      simp only [process, decoded] at course
      exact concerns_of_fail course
  | ok payload =>
      cases read : Job.ofJson payload with
      | error failure =>
          simp only [process, decoded, read] at course
          exact concerns_of_fail course
      | ok job =>
          simp only [process, decoded, read] at course
          exact concerns_of_processJob course flushes

/-- A message that ends as completed had a job for its payload, and it was remembered. -/
theorem remembered_of_completed {processor : Processor} {message : Broker.Message}
    {exchanges : List Exchange}
    (course : Course (processor.process message) exchanges .completed) :
    ∃ job, Job.parse message.payload = .ok job ∧ remembered exchanges = [job.jobId] := by
  cases course_process course with
  | completed job transcription now read left =>
      refine ⟨job, read, ?_⟩
      rw [← remembered_effects, left]
      rfl
  | failed fails routed => cases routed

end Processor

end Scribe
