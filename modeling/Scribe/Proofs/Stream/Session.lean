import Scribe.Proofs.Run
import Scribe.Proofs.Stream.Polling

/-!
# Sessions of a consumer

A consumer is told to do one thing after another, and each call finds the consumer that the
calls before it left.  Only to pause and to resume decides whether it is paused.
-/

namespace Scribe.Stream.Consumer

open Scribe.Broker (Message Error)
open Scribe.Dialogue

/-- Something that a consumer is told to do. -/
inductive Call
  | subscribe (topics : List String)
  | poll (timeout : Time.Span)
  | pause
  | resume
  | commit (message : Message)

/-- What a consumer returns of a call, if it is a message, and the consumer afterwards. -/
def perform (consumer : Consumer) : Call → Talk (Option Message × Consumer)
  | .subscribe topics => do
      let (_, consumer) ← consumer.subscribe topics
      return (none, consumer)
  | .poll timeout => do
      let (result, consumer) ← consumer.poll timeout
      return (result.toOption.join, consumer)
  | .pause => return (none, consumer.pause)
  | .resume => return (none, consumer.resume)
  | .commit message => do
      let _ ← consumer.commit message
      return (none, consumer)

/-- A call with what was asked in it and the message that it returned. -/
structure Deed where
  call : Call
  exchanges : List Exchange
  returned : Option Message

/-- A call of a consumer, whatever is answered in it, and the consumer that it leaves. -/
def Obeys (consumer : Consumer) (deed : Deed) (after : Consumer) : Prop :=
  Course (consumer.perform deed.call) deed.exchanges (deed.returned, after)

/-- Calls of one consumer, one after another. -/
abbrev Session (start : Consumer) : List Deed → Consumer → Prop :=
  Run Obeys start

/-- Whether a consumer is paused after a call. -/
def Call.pausing (before : Bool) : Call → Bool
  | .pause => true
  | .resume => false
  | _ => before

/-- Whether a consumer is paused after some calls. -/
def isPaused (deeds : List Deed) : Bool :=
  deeds.foldl (fun before deed => deed.call.pausing before) false

/-- The messages that some calls returned, in order. -/
def returned (deeds : List Deed) : List Message :=
  deeds.filterMap Deed.returned

theorem isPaused_append (earlier : List Deed) (deed : Deed) :
    isPaused (earlier ++ [deed]) = deed.call.pausing (isPaused earlier) := by
  rw [isPaused, List.foldl_append]
  rfl

theorem returned_append (earlier : List Deed) (deed : Deed) :
    returned (earlier ++ [deed]) = returned earlier ++ deed.returned.toList :=
  filterMap_snoc Deed.returned earlier deed

/-! ## What a call comes to -/

theorem polls_of_perform {consumer after : Consumer} {timeout : Time.Span}
    {exchanges : List Exchange} {message : Option Message}
    (course : Course (consumer.perform (.poll timeout)) exchanges (message, after)) :
    ∃ result, message = result.toOption.join ∧
      Polls consumer timeout exchanges (result, after) := by
  obtain ⟨early, late, ⟨result, between⟩, rfl, polling, final⟩ := course_bind_iff.mp course
  obtain ⟨rfl, same⟩ := course_pure_iff.mp final
  cases same
  rw [List.append_nil]
  exact ⟨result, rfl, course_poll polling⟩

/-- To subscribe makes the group of a stream, or is refused for the number of streams. -/
theorem course_subscribe {consumer after : Consumer} {topics : List String}
    {exchanges : List Exchange} {result : Except Error Unit}
    (course : Course (consumer.subscribe topics) exchanges (result, after)) :
    (∃ (stream : String) (answer : Read Reply),
      exchanges = [⟨.command (.createGroup ⟨stream, consumer.group⟩), answer⟩] ∧
        after = { consumer with stream }) ∨
    exchanges = [] ∧ after = consumer := by
  cases topics with
  | nil =>
      obtain ⟨rfl, same⟩ := course_pure_iff.mp course
      cases same
      exact Or.inr ⟨rfl, rfl⟩
  | cons stream others =>
      cases others with
      | nil =>
          obtain ⟨early, late, made, rfl, making, final⟩ := course_bind_iff.mp course
          obtain ⟨answer, rfl⟩ := course_ensureGroup making
          obtain ⟨rfl, same⟩ := course_pure_iff.mp final
          cases same
          exact Or.inl ⟨stream, answer, rfl, rfl⟩
      | cons second rest =>
          obtain ⟨rfl, same⟩ := course_pure_iff.mp course
          cases same
          exact Or.inr ⟨rfl, rfl⟩

theorem course_commit {consumer : Consumer} {message : Message}
    {exchanges : List Exchange} {result : Except Error Unit}
    (course : Course (consumer.commit message) exchanges result) :
    ∃ answer : Read Reply,
      exchanges = [⟨.command (.acknowledge ⟨message.topic, consumer.group⟩ message.id), answer⟩] := by
  obtain ⟨answer, rest, rfl, after⟩ := course_call_bind_iff.mp course
  refine ⟨answer, ?_⟩
  split at after
  · obtain ⟨rfl, _⟩ := course_pure_iff.mp after
    rfl
  · obtain ⟨rfl, _⟩ := course_pure_iff.mp after
    rfl

end Scribe.Stream.Consumer
