import Scribe.Proofs.Broker.Headers
import Scribe.Proofs.Work.Handling
import Scribe.Proofs.Work.Records

/-!
# Chains of attempts

A message that fails may come back as its copy, which may fail again, and so on.  Each copy
counts one attempt more than the message before it, and has its payload and its other headers.
As a message at the limit is given up, a chain of attempts has an end: with a producer that
works it is a success or one dead letter.
-/

namespace Scribe.RetryPolicy

open Scribe.Broker
open Scribe.Delivery
open Scribe.Dialogue
open Scribe.Processor (retries_iff not_retries_iff)
open Scribe.Text
open Scribe.Work

/-- What is told of a failure: the stage, the failure, and the payload where it could be
decoded. -/
structure Fault where
  stage : String
  failure : Failure
  payload : Option Json

/-- A failed message that was routed, with all that was asked and answered in it. -/
structure Call where
  message : Message
  fault : Fault
  exchanges : List Exchange
  disposition : Disposition

/-- Where a chain of attempts has come to. -/
inductive Ending
  /-- The last message was not handled yet. -/
  | underway (last : Message)
  | succeeded (last : Message)
  | deadLettered
  /-- The last message could not be published. -/
  | unresolved
deriving DecidableEq

namespace Ending

/-- The last message of a chain if it was not routed. -/
def last? : Ending → Option Message
  | .underway last => some last
  | .succeeded last => some last
  | _ => none

/-- Whether a chain has ended well, or for good. -/
def isFinal : Ending → Bool
  | .succeeded _ => true
  | .deadLettered => true
  | _ => false

end Ending

/-- The messages of a chain in order: those that were routed, and perhaps one more. -/
def messages (calls : List Call) (ending : Ending) : List Message :=
  calls.map Call.message ++ ending.last?.toList

/-- A message brings a record, with all that a producer was given. -/
structure Delivers (message : Message) (record : Record) : Prop where
  topic : message.topic = record.topic
  key : message.key = record.key
  payload : message.payload = record.payload
  headers : message.headers = record.headers

/-- The course of a policy about a failed message. -/
def Routes (policy : RetryPolicy) (call : Call) : Prop :=
  Course (policy.handle call.message call.fault.stage call.fault.failure call.fault.payload)
    call.exchanges call.disposition

/-- A chain of attempts, from its first message on: `fates` tells for each of its messages
whether it fails and how.  A record that is published again comes back as the next message. -/
inductive Chain (policy : RetryPolicy) :
    (Nat → Option Fault) → Message → List Call → Ending → Prop
  | underway (fates : Nat → Option Fault) (message : Message) :
      Chain policy fates message [] (.underway message)
  | succeeded {fates : Nat → Option Fault} (message : Message) (success : fates 0 = none) :
      Chain policy fates message [] (.succeeded message)
  | deadLettered {fates : Nat → Option Fault} (call : Call) (fails : fates 0 = some call.fault)
      (routes : policy.Routes call) (dead : call.disposition = .deadLettered) :
      Chain policy fates call.message [call] .deadLettered
  | unresolved {fates : Nat → Option Fault} (call : Call) (fails : fates 0 = some call.fault)
      (routes : policy.Routes call) (open_ : call.disposition = .unresolved) :
      Chain policy fates call.message [call] .unresolved
  | retried {fates : Nat → Option Fault} (call : Call) {record : Record} {next : Message}
      {calls : List Call} {ending : Ending} (fails : fates 0 = some call.fault)
      (routes : policy.Routes call)
      (again : policy.retries call.fault.failure call.message.attempt = true)
      (accepted : sent record ∈ call.exchanges) (delivers : Delivers next record)
      (later : Chain policy (fun index => fates (index + 1)) next calls ending) :
      Chain policy fates call.message (call :: calls) ending

/-- Every call of the producer succeeds. -/
def Works (calls : List Call) : Prop :=
  ∀ call ∈ calls, ∀ exchange ∈ call.exchanges, hasFailed exchange = false

/-! ## One message -/

/-- The copy of a failed message that counts one attempt more. -/
def copyOf (policy : RetryPolicy) (call : Call) : Record :=
  policy.retryRecord call.message (keyOf call.message call.fault.payload)
    (call.message.attempt + 1)

/-- The dead letter of a failed message. -/
def letterOf (policy : RetryPolicy) (call : Call) (now : Time.Stamp) : Record :=
  policy.deadRecord (keyOf call.message call.fault.payload)
    (DeadLetter.of call.message call.fault.stage call.fault.failure call.fault.payload now)

/-- The failure may pass and the limit is not reached, and the copy is asked for and nothing
else; or one of both is not so, and the dead letter is asked for and nothing else. -/
def AsksOnce (policy : RetryPolicy) (call : Call) : Prop :=
  (call.fault.failure.retryable = true ∧ call.message.attempt < policy.maxAttempts ∧
    requested call.exchanges = [policy.copyOf call]) ∨
  ((call.fault.failure.retryable = false ∨ policy.maxAttempts ≤ call.message.attempt) ∧
    ∃ now, requested call.exchanges = [policy.letterOf call now])

theorem Routes.requested_copy {policy : RetryPolicy} {call : Call}
    (routes : policy.Routes call)
    (again : policy.retries call.fault.failure call.message.attempt = true) :
    requested call.exchanges = [policy.copyOf call] := by
  simp only [Routes, handle, again, if_true] at routes
  exact requested_retry routes

theorem Routes.asksOnce {policy : RetryPolicy} {call : Call} (routes : policy.Routes call) :
    policy.AsksOnce call := by
  cases again : policy.retries call.fault.failure call.message.attempt with
  | true =>
      obtain ⟨retryable, below⟩ := retries_iff.mp again
      exact Or.inl ⟨retryable, below, routes.requested_copy again⟩
  | false =>
      refine Or.inr ⟨not_retries_iff.mp again, ?_⟩
      simp only [Routes, handle, again, Bool.false_eq_true, if_false] at routes
      exact requested_giveUp routes

/-- A record that is published again is the copy of its message. -/
theorem Routes.copy_of_sent {policy : RetryPolicy} {call : Call} {record : Record}
    (routes : policy.Routes call)
    (again : policy.retries call.fault.failure call.message.attempt = true)
    (accepted : sent record ∈ call.exchanges) : record = policy.copyOf call := by
  have asked : record ∈ requested call.exchanges :=
    List.mem_filterMap.mpr ⟨sent record, accepted, rfl⟩
  rw [routes.requested_copy again] at asked
  exact List.mem_singleton.mp asked

/-- What a message has of the first message of its chain. -/
structure Resembles (message first : Message) (tries : Nat) : Prop where
  attempt : message.attempt = first.attempt + tries
  payload : message.payload = first.payload
  headers : message.headers.without attemptHeader = first.headers.without attemptHeader

/-- The message that brings a copy counts one attempt more, and is the same for the rest. -/
theorem Delivers.resembles {policy : RetryPolicy} {call : Call} {next : Message}
    (delivers : Delivers next (policy.copyOf call))
    (below : call.message.attempt < max32) : Resembles next call.message 1 where
  attempt := Message.attempt_of_header delivers.headers below
  payload := delivers.payload
  headers := by
    rw [delivers.headers]
    exact Headers.without_set _ _ _

theorem Resembles.trans {third second first : Message} {late early : Nat}
    (later : Resembles third second late) (earlier : Resembles second first early) :
    Resembles third first (early + late) where
  attempt := by
    rw [later.attempt, earlier.attempt, Nat.add_assoc]
  payload := later.payload.trans earlier.payload
  headers := later.headers.trans earlier.headers

/-! ## Whole chains -/

variable {policy : RetryPolicy} {fates : Nat → Option Fault} {first : Message}
  {calls : List Call} {ending : Ending}

theorem Chain.asksOnce (chain : Chain policy fates first calls ending) :
    ∀ call ∈ calls, policy.AsksOnce call := by
  induction chain with
  | underway => simp
  | succeeded => simp
  | deadLettered call _ routes => simpa using routes.asksOnce
  | unresolved call _ routes => simpa using routes.asksOnce
  | retried call _ routes _ _ _ _ ih =>
      intro other member
      rcases List.mem_cons.mp member with rfl | later
      · exact routes.asksOnce
      · exact ih other later

theorem Resembles.only {message first : Message} {index : Nat}
    (found : [first][index]? = some message) : Resembles message first index := by
  cases index with
  | zero =>
      cases found
      exact ⟨rfl, rfl, rfl⟩
  | succ index => cases found

/-- A message of a chain resembles the first one, and counts one attempt more for each
message before it. -/
theorem Chain.resembles (limit : policy.maxAttempts ≤ max32)
    (chain : Chain policy fates first calls ending) :
    ∀ index message, (messages calls ending)[index]? = some message →
      Resembles message first index := by
  induction chain with
  | underway => exact fun _ _ => Resembles.only
  | succeeded => exact fun _ _ => Resembles.only
  | deadLettered => exact fun _ _ => Resembles.only
  | unresolved => exact fun _ _ => Resembles.only
  | retried call _ routes again accepted delivers _ ih =>
      intro index message found
      cases index with
      | zero =>
          cases found
          exact ⟨rfl, rfl, rfl⟩
      | succ index =>
          have below := (retries_iff.mp again).2
          rw [routes.copy_of_sent again accepted] at delivers
          have next := delivers.resembles (Nat.lt_of_lt_of_le below limit)
          have later := (ih index message found).trans next
          rwa [Nat.add_comm] at later

/-- Whether a failed message is tried again. -/
def Call.isRetried (policy : RetryPolicy) (call : Call) : Bool :=
  policy.retries call.fault.failure call.message.attempt

/-- Each message that is tried again brings the chain nearer to the limit. -/
theorem Chain.length_retried (limit : policy.maxAttempts ≤ max32)
    (chain : Chain policy fates first calls ending) :
    (calls.filter (Call.isRetried policy)).length ≤ policy.maxAttempts - first.attempt := by
  have one : ∀ call : Call, ([call].filter (Call.isRetried policy)).length ≤
      policy.maxAttempts - call.message.attempt := by
    intro call
    cases again : call.isRetried policy with
    | true =>
        have below := (retries_iff.mp again).2
        simp only [List.filter_cons, again, if_true, List.filter_nil, List.length_singleton]
        omega
    | false => simp [again]
  induction chain with
  | underway => exact Nat.zero_le _
  | succeeded => exact Nat.zero_le _
  | deadLettered call => exact one call
  | unresolved call => exact one call
  | @retried fates call record next calls ending _ routes again accepted delivers _ ih =>
      have below := (retries_iff.mp again).2
      rw [routes.copy_of_sent again accepted] at delivers
      have counted := (delivers.resembles (Nat.lt_of_lt_of_le below limit)).attempt
      have here : call.isRetried policy = true := again
      simp only [List.filter_cons, here, if_true, List.length_cons]
      omega

/-! ## Chains with a working producer -/

/-- A message that is published again, and comes back. -/
def Call.IsCopied (policy : RetryPolicy) (call : Call) : Prop :=
  call.disposition = .retryScheduled ∧ taken call.exchanges = [policy.copyOf call]

/-- A message that is given up. -/
def Call.IsDead (policy : RetryPolicy) (call : Call) : Prop :=
  call.disposition = .deadLettered ∧ ∃ now, taken call.exchanges = [policy.letterOf call now]

/-- The records of a chain are copies up to its end, which is one dead letter or none. -/
def Concludes (policy : RetryPolicy) (calls : List Call) : Ending → Prop
  | .deadLettered =>
      ∃ early last, calls = early ++ [last] ∧ (∀ call ∈ early, call.IsCopied policy) ∧
        last.IsDead policy
  | .unresolved => False
  | _ => ∀ call ∈ calls, call.IsCopied policy

/-- Where the producer works, a failed message comes back or is given up. -/
theorem Routes.works {call : Call} (routes : policy.Routes call)
    (works : ∀ exchange ∈ call.exchanges, hasFailed exchange = false) :
    (call.isRetried policy = true ∧ call.IsCopied policy) ∨
      (call.isRetried policy = false ∧ call.IsDead policy) := by
  obtain ⟨message, fault, exchanges, disposition⟩ := call
  cases course_handle routes with
  | retried again published =>
      refine Or.inl ⟨again, rfl, ?_⟩
      rw [← taken_effects, published]
      rfl
  | gaveUp now spent published =>
      refine Or.inr ⟨spent, rfl, now, ?_⟩
      rw [← taken_effects, published]
      rfl
  | failed broken nothing =>
      obtain ⟨exchange, member, failed⟩ := broken
      rw [works exchange member] at failed
      cases failed

theorem Works.head {call : Call} (works : Works (call :: calls)) :
    ∀ exchange ∈ call.exchanges, hasFailed exchange = false :=
  works call List.mem_cons_self

theorem Works.tail {call : Call} (works : Works (call :: calls)) : Works calls :=
  fun other member => works other (List.mem_cons_of_mem _ member)

theorem Concludes.cons {call : Call} (copied : call.IsCopied policy)
    (concludes : Concludes policy calls ending) : Concludes policy (call :: calls) ending := by
  cases ending with
  | deadLettered =>
      obtain ⟨early, last, rfl, copies, dead⟩ := concludes
      exact ⟨call :: early, last, rfl, List.forall_mem_cons.mpr ⟨copied, copies⟩, dead⟩
  | unresolved => exact concludes
  | underway last => exact List.forall_mem_cons.mpr ⟨copied, concludes⟩
  | succeeded last => exact List.forall_mem_cons.mpr ⟨copied, concludes⟩

theorem Chain.concludes (chain : Chain policy fates first calls ending) (works : Works calls) :
    Concludes policy calls ending := by
  induction chain with
  | underway => simp [Concludes]
  | succeeded => simp [Concludes]
  | deadLettered call _ routes dead =>
      rcases routes.works works.head with ⟨_, copied, _⟩ | ⟨_, given⟩
      · rw [dead] at copied
        cases copied
      · exact ⟨[], call, rfl, by simp, given⟩
  | unresolved call _ routes open_ =>
      rcases routes.works works.head with ⟨_, copied, _⟩ | ⟨_, given, _⟩
      · rw [open_] at copied
        cases copied
      · rw [open_] at given
        cases given
  | retried call _ routes again _ _ _ ih =>
      have copied : call.IsCopied policy := by
        rcases routes.works works.head with ⟨_, copied⟩ | ⟨spent, _⟩
        · exact copied
        · rw [Call.isRetried, again] at spent
          cases spent
      exact (ih works.tail).cons copied

/-- A message that brings a record. -/
def bringing (record : Record) : Message :=
  { topic := record.topic
    partition := 0
    offset := 0
    key := record.key
    payload := record.payload
    headers := record.headers
    id := "" }

/-- Surroundings in which the producer works route a failed message. -/
theorem exists_call (policy : RetryPolicy) {reply : (wanted : Request) → wanted.Answer}
    (works : ∀ wanted, hasFailed ⟨wanted, reply wanted⟩ = false) (message : Message)
    (fault : Fault) :
    ∃ exchanges disposition, policy.Routes ⟨message, fault, exchanges, disposition⟩ ∧
      ∀ exchange ∈ exchanges, hasFailed exchange = false := by
  have course := course_follow reply
    (policy.handle message fault.stage fault.failure fault.payload)
  refine ⟨_, _, course, ?_⟩
  rintro ⟨wanted, answer⟩ member
  rw [answer_of_mem_follow member]
  exact works wanted

/-- With surroundings in which the producer works every chain comes to its end. -/
theorem exists_chain (limit : policy.maxAttempts ≤ max32)
    {reply : (wanted : Request) → wanted.Answer}
    (works : ∀ wanted, hasFailed ⟨wanted, reply wanted⟩ = false)
    (fates : Nat → Option Fault) (first : Message) :
    ∃ calls ending, Chain policy fates first calls ending ∧ Works calls ∧
      ending.isFinal = true := by
  -- Each copy has fewer attempts left than its message.
  induction attemptsLeft : policy.maxAttempts - first.attempt using Nat.strongRecOn
    generalizing fates first with
  | ind left ih =>
    cases fate : fates 0 with
    | none => exact ⟨[], _, .succeeded first fate, by simp [Works], rfl⟩
    | some fault =>
      obtain ⟨exchanges, disposition, routes, working⟩ :=
        exists_call policy works first fault
      rcases routes.works working with ⟨again, _, copied⟩ | ⟨_, dead, _⟩
      · have below := (retries_iff.mp again).2
        have accepted := mem_taken.mp (copied ▸ List.mem_singleton_self _)
        have delivers : Delivers (bringing (policy.copyOf ⟨first, fault, exchanges, disposition⟩))
            (policy.copyOf ⟨first, fault, exchanges, disposition⟩) := ⟨rfl, rfl, rfl, rfl⟩
        have counted := (delivers.resembles (Nat.lt_of_lt_of_le below limit)).attempt
        have nearer : policy.maxAttempts -
            (bringing (policy.copyOf ⟨first, fault, exchanges, disposition⟩)).attempt < left := by
          dsimp only at counted below
          omega
        obtain ⟨calls, ending, chain, rest, concluded⟩ :=
          ih _ nearer (fun index => fates (index + 1)) _ rfl
        exact ⟨_, ending, .retried _ fate routes again accepted delivers chain,
          List.forall_mem_cons.mpr ⟨working, rest⟩, concluded⟩
      · exact ⟨_, .deadLettered, .deadLettered _ fate routes dead,
          List.forall_mem_cons.mpr ⟨working, by simp⟩, rfl⟩

/-! ## Bounded and faithful -/

/-- What holds of every chain of attempts, whatever the producer does. -/
structure IsFaithful (policy : RetryPolicy) (first : Message) (calls : List Call)
    (ending : Ending) : Prop where
  /-- The attempts count up from the first message, and payload and other headers stay. -/
  resembles : ∀ index message, (messages calls ending)[index]? = some message →
    Resembles message first index
  /-- Each message asks for its copy or for its dead letter. -/
  once : ∀ call ∈ calls, policy.AsksOnce call
  /-- No attempt count leaves 32 bits. -/
  fits : ∀ call ∈ calls, call.isRetried policy = true → call.message.attempt + 1 ≤ max32
  few : (calls.filter (Call.isRetried policy)).length ≤ policy.maxAttempts - first.attempt
  /-- Where the producer works, copies are followed by a success or by one dead letter. -/
  concludes : Works calls → Concludes policy calls ending

/-- Chains of attempts are bounded and faithful, whatever the limit of 32 bits, the header of
the first message and the failures are; and with surroundings in which the producer works
they come to an end. -/
theorem retries_bounded (policy : RetryPolicy) (limit : policy.maxAttempts ≤ max32)
    (fates : Nat → Option Fault) (first : Message) :
    (∀ calls ending, Chain policy fates first calls ending →
      IsFaithful policy first calls ending) ∧
    ∀ reply : (wanted : Request) → wanted.Answer,
      (∀ wanted, hasFailed ⟨wanted, reply wanted⟩ = false) →
      ∃ calls ending, Chain policy fates first calls ending ∧ Works calls ∧
        ending.isFinal = true := by
  constructor
  · intro calls ending chain
    refine ⟨chain.resembles limit, chain.asksOnce, ?_, chain.length_retried limit,
      chain.concludes⟩
    intro call _ again
    have below := (retries_iff.mp again).2
    omega
  · intro reply works
    exact exists_chain limit works fates first

/-- A message that was tried once, as a text with blanks and a sign says, may fail again and
again. -/
theorem retries_bounded_again :
    let policy : RetryPolicy := {}
    let first : Message := ⟨"stt.jobs", 0, 7, none, .empty, [("attempt", " +1 ")], "7-0"⟩
    let fates : Nat → Option Fault := fun _ => some ⟨"DOWNLOAD", .of .downloadTimeout "", none⟩
    policy.maxAttempts ≤ max32 ∧ first.attempt = 1 ∧
      ∃ calls ending, Chain policy fates first calls ending ∧
        IsFaithful policy first calls ending ∧ Works calls := by
  intro policy first fates
  have working : ∀ wanted, hasFailed ⟨wanted, obliging (.ok ()) wanted⟩ = false := by
    intro wanted
    cases wanted <;> rfl
  obtain ⟨faithful, ends⟩ := retries_bounded policy (by decide) fates first
  obtain ⟨calls, ending, chain, works, _⟩ := ends _ working
  exact ⟨by decide, by decide, calls, ending, chain, faithful calls ending chain, works⟩

end Scribe.RetryPolicy
