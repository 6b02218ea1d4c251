import Scribe.Proofs.Work.Routes

/-!
# Records of an errand

A producer is asked to send records, and takes some of them.  A failed message asks for
exactly one record, whatever the producer does about it: its copy if the policy tries again,
and else its dead letter.
-/

namespace Scribe.Work

open Scribe.Dialogue

/-- The record that an exchange asks the producer to send. -/
def requested? : Exchange → Option Broker.Record
  | ⟨.send record, _⟩ => some record
  | _ => none

/-- The record that the producer takes in an exchange. -/
def taken? : Exchange → Option Broker.Record
  | ⟨.send record, .ok _⟩ => some record
  | _ => none

/-- The records that a course asks the producer to send, in order. -/
def requested (exchanges : List Exchange) : List Broker.Record :=
  exchanges.filterMap requested?

/-- The records that the producer takes in a course, in order. -/
def taken (exchanges : List Exchange) : List Broker.Record :=
  exchanges.filterMap taken?

@[simp] theorem requested_nil : requested [] = [] := rfl
@[simp] theorem taken_nil : taken [] = [] := rfl

@[simp] theorem requested_append (early late : List Exchange) :
    requested (early ++ late) = requested early ++ requested late :=
  List.filterMap_append

@[simp] theorem taken_append (early late : List Exchange) :
    taken (early ++ late) = taken early ++ taken late :=
  List.filterMap_append

theorem requested_cons_of_not {exchange : Exchange} (none : requested? exchange = none)
    (rest : List Exchange) : requested (exchange :: rest) = requested rest := by
  simp [requested, none]

theorem taken_cons_of_not {exchange : Exchange} (none : taken? exchange = none)
    (rest : List Exchange) : taken (exchange :: rest) = taken rest := by
  simp [taken, none]

theorem mem_taken {record : Broker.Record} {exchanges : List Exchange} :
    record ∈ taken exchanges ↔ sent record ∈ exchanges := by
  constructor
  · intro member
    obtain ⟨⟨question, answer⟩, inside, took⟩ := List.mem_filterMap.mp member
    cases question with
    | send other =>
        cases answer with
        | error error => cases took
        | ok _ =>
            cases took
            exact inside
    | _ => cases took
  · intro inside
    exact List.mem_filterMap.mpr ⟨sent record, inside, rfl⟩

/-- Only an effect takes a record. -/
theorem taken_effects (exchanges : List Exchange) :
    taken (effects exchanges) = taken exchanges := by
  induction exchanges with
  | nil => rfl
  | cons exchange rest ih =>
      obtain ⟨question, answer⟩ := exchange
      cases question with
      | send record =>
          rw [effects_cons_of rfl, taken, List.filterMap_cons, ← taken, ih]
          cases answer <;> rfl
      | remember jobId =>
          rw [effects_cons_of rfl]
          exact ih
      | flush timeout =>
          rw [effects_cons_of rfl]
          exact ih
      | _ =>
          rw [effects_cons_of_not rfl]
          exact ih

/-- To publish a record asks for it once. -/
theorem Published.requested {timeout : Time.Span} {record : Broker.Record}
    {exchanges : List Exchange} {result : Except Broker.Error Unit}
    (published : Published timeout record exchanges result) :
    Work.requested exchanges = [record] := by
  cases published with
  | refused => rfl
  | undelivered => rfl
  | delivered => rfl

end Scribe.Work

namespace Scribe.RetryPolicy

open Scribe.Delivery
open Scribe.Dialogue
open Scribe.Work

/-- A message that is tried again asks for its copy. -/
theorem requested_retry {policy : RetryPolicy} {message : Broker.Message}
    {key : Option String} {failure : Failure} {exchanges : List Exchange}
    {disposition : Disposition}
    (course : Course (policy.retry message key failure) exchanges disposition) :
    requested exchanges = [policy.retryRecord message key (message.attempt + 1)] := by
  cases retried_of_course course with
  | unpublished jitter published =>
      rw [requested_cons_of_not rfl, requested_cons_of_not rfl]
      exact published.requested
  | published jitter => rfl

/-- A message that is given up asks for its dead letter. -/
theorem requested_giveUp {policy : RetryPolicy} {message : Broker.Message}
    {key : Option String} {stage : String} {failure : Failure} {payload : Option Json}
    {exchanges : List Exchange} {disposition : Disposition}
    (course : Course (policy.giveUp message key stage failure payload) exchanges disposition) :
    ∃ now, requested exchanges =
      [policy.deadRecord key (DeadLetter.of message stage failure payload now)] := by
  obtain ⟨now, _, rfl, writing⟩ := course_request_bind_iff.mp course
  obtain ⟨early, late, result, rfl, publishing, after⟩ := course_bind_iff.mp writing
  have published := (course_publish publishing).requested
  have silent : requested late = [] := by
    cases result with
    | error error =>
        obtain ⟨rfl, rfl⟩ := course_pure_iff.mp after
        rfl
    | ok _ =>
        obtain ⟨_, rest, rfl, final⟩ := course_request_bind_iff.mp after
        obtain ⟨rfl, rfl⟩ := course_pure_iff.mp final
        rfl
  refine ⟨now, ?_⟩
  rw [requested_cons_of_not rfl, requested_append, published, silent]
  rfl

end Scribe.RetryPolicy
