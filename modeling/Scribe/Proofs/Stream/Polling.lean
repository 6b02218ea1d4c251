import Scribe.Proofs.Dialogue.Course
import Scribe.Stream.Consumer

/-!
# Courses of a poll

A poll of a stream consumer goes one of a few ways, and so does each part of it: the read of
one entry behind an id, the pass that takes over abandoned entries, and the choice between
them.  Each way says which commands were sent, what was answered, and what became of the
consumer.
-/

namespace Scribe.Stream

open Scribe.Broker (Message Error)
open Scribe.Dialogue

/-- A question to the server or its surroundings with the answer. -/
abbrev Exchange := Dialogue.Exchange Question Question.Answer

theorem course_ask_bind_iff {α : Type} {question : Question}
    {next : question.Answer → Talk α} {exchanges : List Exchange} {value : α} :
    Course (ask question >>= next) exchanges value ↔
      ∃ answer rest, exchanges = ⟨question, answer⟩ :: rest ∧ Course (next answer) rest value :=
  course_query_bind_iff

theorem course_call_bind_iff {α β : Type} {command : Command} {read : Reply → Read α}
    {next : Read α → Talk β} {exchanges : List Exchange} {value : β} :
    Course (call command read >>= next) exchanges value ↔
      ∃ (answer : Read Reply) (rest : List Exchange),
        exchanges = ⟨.command command, answer⟩ :: rest ∧
        Course (next (answer.bind read)) rest value :=
  course_query_bind_iff

namespace Consumer

/-! ## Reading one entry -/

theorem course_ensureGroup {on : Group} {exchanges : List Exchange}
    {result : Except Error Unit} (course : Course (ensureGroup on) exchanges result) :
    ∃ answer : Read Reply, exchanges = [⟨.command (.createGroup on), answer⟩] := by
  obtain ⟨answer, rest, rfl, after⟩ := course_call_bind_iff.mp course
  refine ⟨answer, ?_⟩
  split at after
  · obtain ⟨rfl, _⟩ := course_pure_iff.mp after
    rfl
  · split at after
    · obtain ⟨rfl, _⟩ := course_pure_iff.mp after
      rfl
    · obtain ⟨rfl, _⟩ := course_pure_iff.mp after
      rfl

/-- The ways in which one entry is read behind an id. -/
inductive Reads (consumer : Consumer) (behind : String) (wait : Option Nat) :
    List Exchange → Outcome (Option Message) → Prop
  | entry (answer : Read Reply) (streams : List (String × List Entry)) (stream : String)
      (entry : Entry) (read : answer.bind streamsOf = .ok streams)
      (first : firstEntry? streams = some (stream, entry)) :
      Reads consumer behind wait
        [⟨.command (.readGroup consumer.on consumer.name wait behind), answer⟩]
        (.ok (some (consumer.receive stream entry).1), (consumer.receive stream entry).2)
  | nothing (answer : Read Reply) (streams : List (String × List Entry))
      (read : answer.bind streamsOf = .ok streams) (none : firstEntry? streams = none) :
      Reads consumer behind wait
        [⟨.command (.readGroup consumer.on consumer.name wait behind), answer⟩]
        (.ok Option.none, consumer)
  | groupless (answer made : Read Reply) (fault : Fault) (result : Except Error (Option Message))
      (read : answer.bind streamsOf = .error fault) (gone : fault.mentions "NOGROUP" = true)
      (empty : result.toOption.join = none) :
      Reads consumer behind wait
        [⟨.command (.readGroup consumer.on consumer.name wait behind), answer⟩,
          ⟨.command (.createGroup consumer.on), made⟩] (result, consumer)
  | failed (answer : Read Reply) (fault : Fault) (read : answer.bind streamsOf = .error fault)
      (other : fault.mentions "NOGROUP" = false) :
      Reads consumer behind wait
        [⟨.command (.readGroup consumer.on consumer.name wait behind), answer⟩]
        (.error fault.toBroker, consumer)

theorem course_read {consumer : Consumer} {behind : String} {wait : Option Nat}
    {exchanges : List Exchange} {outcome : Outcome (Option Message)}
    (course : Course (consumer.read behind wait) exchanges outcome) :
    Reads consumer behind wait exchanges outcome := by
  obtain ⟨answer, rest, rfl, after⟩ := course_call_bind_iff.mp course
  cases read : answer.bind streamsOf with
  | ok streams =>
      cases first : firstEntry? streams with
      | none =>
          simp only [read, first] at after
          obtain ⟨rfl, rfl⟩ := course_pure_iff.mp after
          exact .nothing answer streams read first
      | some found =>
          obtain ⟨stream, entry⟩ := found
          simp only [read, first] at after
          obtain ⟨rfl, rfl⟩ := course_pure_iff.mp after
          exact .entry answer streams stream entry read first
  | error fault =>
      cases gone : fault.mentions "NOGROUP" with
      | true =>
          simp only [read, gone, if_true] at after
          obtain ⟨early, late, made, rfl, making, final⟩ := course_bind_iff.mp after
          obtain ⟨answerMade, rfl⟩ := course_ensureGroup making
          cases made with
          | ok _ =>
              obtain ⟨rfl, rfl⟩ := course_pure_iff.mp final
              exact .groupless answer answerMade fault _ read gone rfl
          | error error =>
              obtain ⟨rfl, rfl⟩ := course_pure_iff.mp final
              exact .groupless answer answerMade fault _ read gone rfl
      | false =>
          simp only [read, gone] at after
          obtain ⟨rfl, rfl⟩ := course_pure_iff.mp after
          exact .failed answer fault read gone

/-! ## Taking entries over -/

theorem bmod_eq_self_iff (number : Nat) :
    Int.bmod number 0x10000000000000000 = number ↔ number ≤ Text.maxSigned64 := by
  simp only [Text.maxSigned64]
  constructor
  · intro same
    obtain ⟨_, high, _⟩ := (Int.bmod_eq_iff (by omega)).mp same
    omega
  · intro fits
    exact Int.bmod_eq_of_le (by omega) (by omega)

/-- The least idle time that is sent is the true one as long as it fits. -/
theorem minIdle_eq_millis_iff (consumer : Consumer) :
    consumer.minIdle = consumer.claimIdle.millis ↔
      consumer.claimIdle.millis ≤ Text.maxSigned64 := by
  have sent : consumer.minIdle = Int.bmod consumer.claimIdle.millis 0x10000000000000000 := rfl
  rw [sent, bmod_eq_self_iff]

/-- Read the entries that are not acknowledged. -/
def unfinishedOf (reply : Reply) : Read (List Unfinished) := do
  (← reply.items).mapM Unfinished.ofReply

/-- The entries of a list that may be taken over, by their ids. -/
def abandoned (consumer : Consumer) (unfinished : List Unfinished) : List String :=
  (unfinished.filter consumer.mayClaim).map Unfinished.id

/-- The ways in which abandoned entries are taken over. -/
inductive Claims (consumer : Consumer) :
    List Exchange → Except Fault (List Message) × Consumer → Prop
  | groupless (answer : Read Reply) (fault : Fault)
      (listed : answer.bind unfinishedOf = .error fault)
      (gone : fault.mentions "NOGROUP" = true) :
      Claims consumer [⟨.command (.pending consumer.on batch), answer⟩] (.ok [], consumer)
  | unlisted (answer : Read Reply) (fault : Fault)
      (listed : answer.bind unfinishedOf = .error fault)
      (other : fault.mentions "NOGROUP" = false) :
      Claims consumer [⟨.command (.pending consumer.on batch), answer⟩]
        (.error fault, consumer)
  | nothing (answer : Read Reply) (unfinished : List Unfinished)
      (listed : answer.bind unfinishedOf = .ok unfinished)
      (none : (consumer.abandoned unfinished).isEmpty = true) :
      Claims consumer [⟨.command (.pending consumer.on batch), answer⟩] (.ok [], consumer)
  | refused (answer reply : Read Reply) (unfinished : List Unfinished) (fault : Fault)
      (listed : answer.bind unfinishedOf = .ok unfinished)
      (some : (consumer.abandoned unfinished).isEmpty = false)
      (claimed : reply.bind claimedOf = .error fault) :
      Claims consumer
        [⟨.command (.pending consumer.on batch), answer⟩,
          ⟨.command (.claim consumer.on consumer.name consumer.minIdle
            (consumer.abandoned unfinished)), reply⟩]
        (.error fault, consumer)
  | taken (answer reply : Read Reply) (unfinished : List Unfinished) (entries : List Entry)
      (listed : answer.bind unfinishedOf = .ok unfinished)
      (some : (consumer.abandoned unfinished).isEmpty = false)
      (claimed : reply.bind claimedOf = .ok entries) :
      Claims consumer
        [⟨.command (.pending consumer.on batch), answer⟩,
          ⟨.command (.claim consumer.on consumer.name consumer.minIdle
            (consumer.abandoned unfinished)), reply⟩]
        (.ok (receiveAll consumer.stream entries consumer).1,
          (receiveAll consumer.stream entries consumer).2)

theorem course_claim {consumer : Consumer} {exchanges : List Exchange}
    {outcome : Except Fault (List Message) × Consumer}
    (course : Course consumer.claim exchanges outcome) : Claims consumer exchanges outcome := by
  obtain ⟨answer, rest, rfl, after⟩ := course_call_bind_iff.mp course
  change Course (match answer.bind unfinishedOf with | .error _ => _ | .ok _ => _) _ _ at after
  cases listed : answer.bind unfinishedOf with
  | error fault =>
      cases gone : fault.mentions "NOGROUP" with
      | true =>
          simp only [listed, gone, if_true] at after
          obtain ⟨rfl, rfl⟩ := course_pure_iff.mp after
          exact .groupless answer fault listed gone
      | false =>
          simp only [listed, gone] at after
          obtain ⟨rfl, rfl⟩ := course_pure_iff.mp after
          exact .unlisted answer fault listed gone
  | ok unfinished =>
      simp only [listed] at after
      change Course (if (consumer.abandoned unfinished).isEmpty = true then _ else _) _ _ at after
      cases some : (consumer.abandoned unfinished).isEmpty with
      | true =>
          simp only [some, if_true] at after
          obtain ⟨rfl, rfl⟩ := course_pure_iff.mp after
          exact .nothing answer unfinished listed some
      | false =>
          simp only [some] at after
          obtain ⟨reply, _, rfl, final⟩ := course_call_bind_iff.mp after
          cases claimed : reply.bind claimedOf with
          | error fault =>
              simp only [claimed] at final
              obtain ⟨rfl, rfl⟩ := course_pure_iff.mp final
              exact .refused answer reply unfinished fault listed some claimed
          | ok entries =>
              simp only [claimed] at final
              obtain ⟨rfl, rfl⟩ := course_pure_iff.mp final
              exact .taken answer reply unfinished entries listed some claimed

/-- The ways in which abandoned entries are taken over if it is time for it. -/
inductive ClaimsWhenDue (consumer : Consumer) : List Exchange → Consumer → Prop
  | early (now : Time.Span) (due : consumer.claimDue now = false) :
      ClaimsWhenDue consumer [⟨.clock, now⟩] consumer
  | added (now : Time.Span) (due : consumer.claimDue now = true) {exchanges : List Exchange}
      (messages : List Message) (after : Consumer)
      (claims : Claims { consumer with lastClaim := some now } exchanges (.ok messages, after)) :
      ClaimsWhenDue consumer (⟨.clock, now⟩ :: exchanges)
        { after with claimed := after.claimed ++ messages }
  | failed (now : Time.Span) (due : consumer.claimDue now = true) {exchanges : List Exchange}
      (fault : Fault) (after : Consumer)
      (claims : Claims { consumer with lastClaim := some now } exchanges (.error fault, after)) :
      ClaimsWhenDue consumer (⟨.clock, now⟩ :: exchanges) after

theorem course_claimWhenDue {consumer after : Consumer} {exchanges : List Exchange}
    (course : Course consumer.claimWhenDue exchanges after) :
    ClaimsWhenDue consumer exchanges after := by
  obtain ⟨now, _, rfl, asked⟩ := course_ask_bind_iff.mp course
  cases due : consumer.claimDue now with
  | false =>
      simp only [due] at asked
      obtain ⟨rfl, rfl⟩ := course_pure_iff.mp asked
      exact .early now due
  | true =>
      simp only [due, if_true] at asked
      obtain ⟨early, late, ⟨result, between⟩, rfl, claiming, final⟩ := course_bind_iff.mp asked
      have claims := course_claim claiming
      cases result with
      | ok messages =>
          obtain ⟨rfl, rfl⟩ := course_pure_iff.mp final
          rw [List.append_nil]
          exact .added now due messages between claims
      | error fault =>
          obtain ⟨rfl, rfl⟩ := course_pure_iff.mp final
          rw [List.append_nil]
          exact .failed now due fault after claims

/-! ## The whole poll -/

/-- The ways in which a consumer that has nothing to take up again comes to a message. -/
inductive ReadsNew (consumer : Consumer) (timeout : Time.Span) :
    List Exchange → Outcome (Option Message) → Prop
  | taken {exchanges : List Exchange} (between : Consumer) (message : Message)
      (rest : List Message) (claims : ClaimsWhenDue consumer exchanges between)
      (waiting : between.claimed = message :: rest) :
      ReadsNew consumer timeout exchanges
        (.ok (some message), { between with claimed := rest })
  | read {early late : List Exchange} {outcome : Outcome (Option Message)}
      (between : Consumer) (claims : ClaimsWhenDue consumer early between)
      (none : between.claimed = [])
      (reads : Reads between ">" (some (max timeout.millis 1)) late outcome) :
      ReadsNew consumer timeout (early ++ late) outcome

theorem course_readNew {consumer : Consumer} {timeout : Time.Span}
    {exchanges : List Exchange} {outcome : Outcome (Option Message)}
    (course : Course (consumer.readNew timeout) exchanges outcome) :
    ReadsNew consumer timeout exchanges outcome := by
  obtain ⟨early, late, between, rfl, claiming, after⟩ := course_bind_iff.mp course
  have claims := course_claimWhenDue claiming
  cases waiting : between.claimed with
  | cons message rest =>
      simp only [waiting] at after
      obtain ⟨rfl, rfl⟩ := course_pure_iff.mp after
      rw [List.append_nil]
      exact .taken between message rest claims waiting
  | nil =>
      simp only [waiting] at after
      exact .read between claims waiting (course_read after)

/-- The ways in which a consumer is polled. -/
inductive Polls (consumer : Consumer) (timeout : Time.Span) :
    List Exchange → Outcome (Option Message) → Prop
  | paused (stopped : consumer.paused = true) :
      Polls consumer timeout [⟨.sleep timeout, ()⟩] (.ok none, consumer)
  | waiting (active : consumer.paused = false) (message : Message) (rest : List Message)
      (first : consumer.claimed = message :: rest) :
      Polls consumer timeout [] (.ok (some message), { consumer with claimed := rest })
  | replayed (active : consumer.paused = false) (empty : consumer.claimed = [])
      (cursor : String) (place : consumer.cursor = some cursor) {exchanges : List Exchange}
      (message : Message) (after : Consumer)
      (reads : Reads consumer cursor none exchanges (.ok (some message), after)) :
      Polls consumer timeout exchanges
        (.ok (some message), { after with cursor := some message.id })
  | failed (active : consumer.paused = false) (empty : consumer.claimed = [])
      (cursor : String) (place : consumer.cursor = some cursor) {exchanges : List Exchange}
      (error : Error) (after : Consumer)
      (reads : Reads consumer cursor none exchanges (.error error, after)) :
      Polls consumer timeout exchanges (.error error, after)
  | ended (active : consumer.paused = false) (empty : consumer.claimed = [])
      (cursor : String) (place : consumer.cursor = some cursor) {early late : List Exchange}
      {outcome : Outcome (Option Message)} (after : Consumer)
      (reads : Reads consumer cursor none early (.ok none, after))
      (new : ReadsNew { after with cursor := none } timeout late outcome) :
      Polls consumer timeout (early ++ late) outcome
  | new (active : consumer.paused = false) (empty : consumer.claimed = [])
      (place : consumer.cursor = none) {exchanges : List Exchange}
      {outcome : Outcome (Option Message)}
      (new : ReadsNew consumer timeout exchanges outcome) :
      Polls consumer timeout exchanges outcome

theorem course_poll {consumer : Consumer} {timeout : Time.Span} {exchanges : List Exchange}
    {outcome : Outcome (Option Message)}
    (course : Course (consumer.poll timeout) exchanges outcome) :
    Polls consumer timeout exchanges outcome := by
  cases active : consumer.paused with
  | true =>
      simp only [poll, active, if_true] at course
      obtain ⟨_, _, rfl, slept⟩ := course_ask_bind_iff.mp course
      obtain ⟨rfl, rfl⟩ := course_pure_iff.mp slept
      exact .paused active
  | false =>
      have awake : ¬ consumer.paused = true := Bool.eq_false_iff.mp active
      cases first : consumer.claimed with
      | cons message rest =>
          simp only [poll, if_neg awake, first] at course
          obtain ⟨rfl, rfl⟩ := course_pure_iff.mp course
          exact .waiting active message rest first
      | nil =>
          cases place : consumer.cursor with
          | none =>
              simp only [poll, if_neg awake, first, place] at course
              exact .new active first place (course_readNew course)
          | some cursor =>
              simp only [poll, if_neg awake, first, place] at course
              obtain ⟨early, late, ⟨result, after⟩, rfl, reading, onward⟩ :=
                course_bind_iff.mp course
              have reads := course_read reading
              cases result with
              | error error =>
                  obtain ⟨rfl, rfl⟩ := course_pure_iff.mp onward
                  rw [List.append_nil]
                  exact .failed active first cursor place error after reads
              | ok found =>
                  cases found with
                  | some message =>
                      obtain ⟨rfl, rfl⟩ := course_pure_iff.mp onward
                      rw [List.append_nil]
                      exact .replayed active first cursor place message after reads
                  | none =>
                      exact .ended active first cursor place after reads (course_readNew onward)

/-- A consumer that is paused gives nothing and asks the server for nothing. -/
theorem Polls.of_paused {consumer : Consumer} {timeout : Time.Span}
    {exchanges : List Exchange} {outcome : Outcome (Option Message)}
    (polls : Polls consumer timeout exchanges outcome) (stopped : consumer.paused = true) :
    exchanges = [⟨.sleep timeout, ()⟩] ∧ outcome = (.ok none, consumer) := by
  cases polls with
  | paused => exact ⟨rfl, rfl⟩
  | waiting active => cases active.symm.trans stopped
  | replayed active => cases active.symm.trans stopped
  | failed active => cases active.symm.trans stopped
  | ended active => cases active.symm.trans stopped
  | new active => cases active.symm.trans stopped

/-- While messages wait, a poll gives the first of them and asks the server for nothing. -/
theorem Polls.of_waiting {consumer : Consumer} {timeout : Time.Span}
    {exchanges : List Exchange} {outcome : Outcome (Option Message)} {message : Message}
    {rest : List Message} (polls : Polls consumer timeout exchanges outcome)
    (active : consumer.paused = false) (first : consumer.claimed = message :: rest) :
    exchanges = [] ∧ outcome = (.ok (some message), { consumer with claimed := rest }) := by
  cases polls with
  | paused stopped => cases active.symm.trans stopped
  | waiting _ other others same =>
      cases first.symm.trans same
      exact ⟨rfl, rfl⟩
  | replayed _ empty => cases first.symm.trans empty
  | failed _ empty => cases first.symm.trans empty
  | ended _ empty => cases first.symm.trans empty
  | new _ empty => cases first.symm.trans empty

end Consumer

end Scribe.Stream
