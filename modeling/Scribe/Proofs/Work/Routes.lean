import Scribe.Proofs.Work.Effects

/-!
# Where a failed message goes

The retry policy publishes a failed message again or gives it up as a dead letter, and it
says so only when the record was sent and delivered.  When the message was a job that is
given up, a failed result follows, and only after its delivery the message counts as a
dead letter.  Anything else leaves the message unresolved, after a call that failed.
-/

namespace Scribe

open Scribe.Delivery
open Scribe.Dialogue
open Scribe.Work

namespace RetryPolicy

/-- How the policy can route a failed message. -/
inductive Routed (policy : RetryPolicy) (message : Broker.Message) (stage : String)
    (failure : Failure) (payload : Option Json) : List Exchange → Disposition → Prop
  | retried {exchanges : List Exchange}
      (again : policy.retries failure message.attempt = true)
      (published : effects exchanges =
        [sent (policy.retryRecord message (keyOf message payload) (message.attempt + 1)),
          flushed policy.flushTimeout]) :
      Routed policy message stage failure payload exchanges .retryScheduled
  | gaveUp {exchanges : List Exchange} (now : Time.Stamp)
      (spent : policy.retries failure message.attempt = false)
      (published : effects exchanges =
        [sent (policy.deadRecord (keyOf message payload)
            (DeadLetter.of message stage failure payload now)),
          flushed policy.flushTimeout]) :
      Routed policy message stage failure payload exchanges .deadLettered
  | failed {exchanges : List Exchange}
      (broken : ∃ exchange ∈ exchanges, hasFailed exchange = true)
      (nothing : remembered exchanges = []) :
      Routed policy message stage failure payload exchanges .unresolved

/-- What a retry asks for, in order: a share of the delay, the wait, and the copy.  A note follows
once the copy is delivered. -/
inductive Retried (policy : RetryPolicy) (message : Broker.Message) (key : Option String)
    (failure : Failure) : List Exchange → Disposition → Prop
  | unpublished (jitter : Jitter) {publishing : List Exchange} {error : Broker.Error}
      (published : Published policy.flushTimeout
        (policy.retryRecord message key (message.attempt + 1)) publishing (.error error)) :
      Retried policy message key failure
        (⟨.drawJitter, jitter⟩ ::
          ⟨.sleep (Backoff.spread (policy.backoff.delay (message.attempt + 1)) jitter), ()⟩ ::
          publishing)
        .unresolved
  | published (jitter : Jitter) :
      Retried policy message key failure
        [⟨.drawJitter, jitter⟩,
          ⟨.sleep (Backoff.spread (policy.backoff.delay (message.attempt + 1)) jitter), ()⟩,
          sent (policy.retryRecord message key (message.attempt + 1)),
          flushed policy.flushTimeout,
          ⟨.note (.retryScheduled policy.jobsTopic failure.code.name), ()⟩]
        .retryScheduled

theorem retried_of_course {policy : RetryPolicy} {message : Broker.Message}
    {key : Option String} {failure : Failure} {exchanges : List Exchange}
    {disposition : Disposition}
    (course : Course (policy.retry message key failure) exchanges disposition) :
    Retried policy message key failure exchanges disposition := by
  obtain ⟨jitter, _, rfl, slept⟩ := course_request_bind_iff.mp course
  obtain ⟨_, _, rfl, awake⟩ := course_request_bind_iff.mp slept
  obtain ⟨early, late, result, rfl, publishing, after⟩ := course_bind_iff.mp awake
  have published := course_publish publishing
  cases result with
  | error error =>
      obtain ⟨rfl, rfl⟩ := course_pure_iff.mp after
      rw [List.append_nil]
      exact .unpublished jitter published
  | ok _ =>
      obtain ⟨_, rest, rfl, final⟩ := course_request_bind_iff.mp after
      obtain ⟨rfl, rfl⟩ := course_pure_iff.mp final
      rw [published.of_ok]
      exact .published jitter

theorem course_retry {policy : RetryPolicy} {message : Broker.Message} {stage : String}
    {failure : Failure} {payload : Option Json} {exchanges : List Exchange}
    {disposition : Disposition} (again : policy.retries failure message.attempt = true)
    (course : Course (policy.retry message (keyOf message payload) failure) exchanges
      disposition) :
    Routed policy message stage failure payload exchanges disposition := by
  cases retried_of_course course with
  | unpublished jitter published =>
      obtain ⟨⟨exchange, member, failed⟩, nothing⟩ := published.of_error
      refine .failed ⟨exchange, ?_, failed⟩ ?_
      · simp [member]
      · rw [remembered_cons_of_not rfl, remembered_cons_of_not rfl, nothing]
  | published jitter => exact .retried again rfl

theorem course_giveUp {policy : RetryPolicy} {message : Broker.Message} {stage : String}
    {failure : Failure} {payload : Option Json} {exchanges : List Exchange}
    {disposition : Disposition} (spent : policy.retries failure message.attempt = false)
    (course : Course (policy.giveUp message (keyOf message payload) stage failure payload)
      exchanges disposition) :
    Routed policy message stage failure payload exchanges disposition := by
  obtain ⟨now, _, rfl, writing⟩ := course_request_bind_iff.mp course
  obtain ⟨early, late, result, rfl, publishing, after⟩ := course_bind_iff.mp writing
  have published := course_publish publishing
  cases result with
  | error error =>
      obtain ⟨rfl, rfl⟩ := course_pure_iff.mp after
      obtain ⟨⟨exchange, member, failed⟩, nothing⟩ := published.of_error
      refine .failed ⟨exchange, ?_, failed⟩ ?_
      · simp [member]
      · rw [remembered_cons_of_not rfl, remembered_append, nothing]
        rfl
  | ok _ =>
      obtain ⟨_, rest, rfl, final⟩ := course_request_bind_iff.mp after
      obtain ⟨rfl, rfl⟩ := course_pure_iff.mp final
      rw [published.of_ok]
      exact .gaveUp now spent rfl

theorem course_handle {policy : RetryPolicy} {message : Broker.Message} {stage : String}
    {failure : Failure} {payload : Option Json} {exchanges : List Exchange}
    {disposition : Disposition}
    (course : Course (policy.handle message stage failure payload) exchanges disposition) :
    Routed policy message stage failure payload exchanges disposition := by
  unfold handle at course
  cases again : policy.retries failure message.attempt with
  | true =>
      simp only [again] at course
      exact course_retry again course
  | false =>
      simp only [again] at course
      exact course_giveUp again course

end RetryPolicy

namespace Processor

/-- The result that reports a job as failed. -/
def failedResult (processor : Processor) (job : Job) (failure : Failure)
    (now : Time.Stamp) : JobResult :=
  .failed job failure processor.selector.primary.kind.name processor.selector.primary.version
    now

/-- Sending the failed result of a job and waiting for its delivery; without a job there
is nothing to report. -/
def reported (processor : Processor) (failure : Failure) (now : Time.Stamp) :
    Option Job → List Exchange
  | none => []
  | some job =>
      [sent (processor.resultRecord job (processor.failedResult job failure now)),
        flushed processor.retry.flushTimeout]

/-- What can become of a message whose stage has failed. -/
inductive Failed (processor : Processor) (message : Broker.Message) (payload : Option Json)
    (job : Option Job) (failed : StageFailure) : List Exchange → Disposition → Prop
  | retried {exchanges : List Exchange}
      (again : processor.retry.retries failed.failure message.attempt = true)
      (published : effects exchanges =
        [sent (processor.retry.retryRecord message (RetryPolicy.keyOf message payload)
            (message.attempt + 1)),
          flushed processor.retry.flushTimeout]) :
      Failed processor message payload job failed exchanges .retryScheduled
  | gaveUp {exchanges : List Exchange} (given reportedAt : Time.Stamp)
      (spent : processor.retry.retries failed.failure message.attempt = false)
      (published : effects exchanges =
        [sent (processor.retry.deadRecord (RetryPolicy.keyOf message payload)
            (DeadLetter.of message failed.stage.name failed.failure payload given)),
          flushed processor.retry.flushTimeout] ++
            processor.reported failed.failure reportedAt job) :
      Failed processor message payload job failed exchanges .deadLettered
  | unresolved {exchanges : List Exchange}
      (broken : ∃ exchange ∈ exchanges, hasFailed exchange = true)
      (nothing : remembered exchanges = []) :
      Failed processor message payload job failed exchanges .unresolved

/-- How the publication of a result can go. -/
theorem course_publish {processor : Processor} {job : Job} {result : JobResult}
    {exchanges : List Exchange} {answer : Except Failure Unit}
    (course : Course (processor.publish job result) exchanges answer) :
    (answer = .ok () ∧ exchanges =
      [sent (processor.resultRecord job result), flushed processor.retry.flushTimeout]) ∨
    ∃ failure, answer = .error failure ∧
      (∃ exchange ∈ exchanges, hasFailed exchange = true) ∧ remembered exchanges = [] := by
  obtain ⟨early, late, told, rfl, publishing, after⟩ := course_bind_iff.mp course
  have published := Work.course_publish publishing
  cases told with
  | error error =>
      obtain ⟨rfl, rfl⟩ := course_pure_iff.mp after
      rw [List.append_nil]
      exact Or.inr ⟨_, rfl, published.of_error⟩
  | ok _ =>
      obtain ⟨rfl, rfl⟩ := course_pure_iff.mp after
      rw [List.append_nil]
      exact Or.inl ⟨rfl, published.of_ok⟩

theorem course_fail {processor : Processor} {message : Broker.Message}
    {payload : Option Json} {job : Option Job} {failed : StageFailure}
    {exchanges : List Exchange} {disposition : Disposition}
    (course : Course (processor.fail message payload job failed) exchanges disposition) :
    Failed processor message payload job failed exchanges disposition := by
  obtain ⟨_, _, rfl, noted⟩ := course_request_bind_iff.mp course
  obtain ⟨early, late, routed, rfl, routing, after⟩ := course_bind_iff.mp noted
  cases RetryPolicy.course_handle routing with
  | retried again published =>
      obtain ⟨rfl, rfl⟩ := course_pure_iff.mp after
      rw [List.append_nil]
      exact .retried again published
  | failed broken nothing =>
      obtain ⟨rfl, rfl⟩ := course_pure_iff.mp after
      obtain ⟨exchange, member, hasFailed_⟩ := broken
      rw [List.append_nil]
      exact .unresolved ⟨exchange, List.mem_cons_of_mem _ member, hasFailed_⟩ nothing
  | gaveUp now spent published =>
      obtain ⟨_, rest, rfl, reporting⟩ := course_request_bind_iff.mp after
      have givenUp : remembered early = [] := by
        rw [← remembered_effects, published]
        rfl
      cases job with
      | none =>
          obtain ⟨rfl, rfl⟩ := course_pure_iff.mp reporting
          refine .gaveUp now now spent ?_
          rw [effects_cons_of_not rfl, effects_append, published]
          rfl
      | some job =>
          obtain ⟨reportedAt, _, rfl, writing⟩ := course_request_bind_iff.mp reporting
          obtain ⟨first, second, answer, rfl, publishing, final⟩ := course_bind_iff.mp writing
          rcases course_publish publishing with ⟨rfl, rfl⟩ | ⟨failure, rfl, broken, nothing⟩
          · obtain ⟨rfl, rfl⟩ := course_pure_iff.mp final
            refine .gaveUp now reportedAt spent ?_
            rw [effects_cons_of_not rfl, effects_append, published]
            rfl
          · obtain ⟨rfl, rfl⟩ := course_pure_iff.mp final
            obtain ⟨exchange, member, hasFailed_⟩ := broken
            refine .unresolved ⟨exchange, ?_, hasFailed_⟩ ?_
            · simp [member]
            · rw [remembered_cons_of_not rfl, remembered_append, givenUp,
                remembered_cons_of_not rfl, remembered_cons_of_not rfl, remembered_append,
                nothing]
              rfl

end Processor

end Scribe
