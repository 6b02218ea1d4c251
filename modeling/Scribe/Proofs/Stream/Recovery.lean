import Scribe.Proofs.Stream.Pending

/-!
# Taking up again what was not acknowledged

A consumer that comes back under its name is given, before anything else, the entries that it
was given earlier and did not acknowledge.  It goes from id to id, while acknowledgements take
entries away behind it and reads may fail, and once nothing is left it never goes back.
-/

namespace Scribe.Stream

open Scribe.Broker (Message Error)
open Scribe.Dialogue

/-! ## What is asked -/

/-- Whether entries are asked for that the consumer was given before. -/
def Question.isReplay : Question → Bool
  | .command (.readGroup _ _ _ behind) => behind != ">"
  | _ => false

/-- Whether new entries or those of other consumers are asked for. -/
def Question.goesBeyond : Question → Bool
  | .command (.readGroup _ _ _ behind) => behind == ">"
  | .command (.pending _ _) => true
  | .command (.claim _ _ _ _) => true
  | _ => false

/-- Whether it turns out that nothing is left to take up again. -/
def Exhausts : Exchange → Prop
  | ⟨.command (.readGroup _ _ _ behind), answer⟩ =>
      behind ≠ ">" ∧ ∃ streams, answer.bind Consumer.streamsOf = .ok streams ∧
        Consumer.firstEntry? streams = none
  | _ => False

/-- What a server tells of the entries that a consumer has not acknowledged: of those behind
an id it shows the first, or else it fails for another reason than that there is no group.
All other answers are free. -/
inductive Tells (on : Group) (name : String) (pending : List Stored) : Exchange → Prop
  | shown {wait : Option Nat} {behind : String} {cursor : EntryId} {reply : Reply}
      (place : EntryId.read? behind = some cursor)
      (shows : Shows on.stream (firstBehind cursor pending) reply) :
      Tells on name pending ⟨.command (.readGroup on name wait behind), .ok reply⟩
  | failed {wait : Option Nat} {behind : String} {answer : Read Reply} {fault : Fault}
      (read : answer.bind Consumer.streamsOf = .error fault)
      (other : fault.mentions "NOGROUP" = false) :
      Tells on name pending ⟨.command (.readGroup on name wait behind), answer⟩
  | elsewhere {exchange : Exchange}
      (other : ∀ wait behind, behind ≠ ">" →
        exchange.question ≠ .command (.readGroup on name wait behind)) :
      Tells on name pending exchange

/-! ## A consumer and its entries -/

/-- A consumer with the entries that the server still has for it, and what it has returned. -/
structure Recovery where
  consumer : Consumer
  pending : List Stored
  returned : List Message := []

/-- Calls other than to subscribe again; only what was returned is acknowledged. -/
def Recovery.Admits (recovery : Recovery) : Consumer.Call → Prop
  | .subscribe _ => False
  | .commit message => message ∈ recovery.returned
  | _ => True

/-- What may become of the entries that are not acknowledged.  An acknowledgement takes an
entry away, unless it fails; others come and go only where the consumer asks for more. -/
inductive Remains (pending : List Stored) (deed : Consumer.Deed) : List Stored → Prop
  | all : Remains pending deed pending
  | acknowledged {message : Message} (called : deed.call = .commit message) :
      Remains pending deed (pending.filter fun stored => stored.id.text != message.id)
  | changed {exchange : Exchange} (asked : exchange ∈ deed.exchanges)
      (beyond : exchange.question.goesBeyond = true) (later : List Stored) :
      Remains pending deed later

/-- A call of a consumer with a server that knows its entries. -/
structure Recovery.Goes (before : Recovery) (deed : Consumer.Deed) (after : Recovery) :
    Prop where
  admitted : before.Admits deed.call
  obeys : before.consumer.Obeys deed after.consumer
  told : ∀ exchange ∈ deed.exchanges,
    Tells before.consumer.on before.consumer.name before.pending exchange
  pending : Remains before.pending deed after.pending
  returned : after.returned = before.returned ++ deed.returned.toList

/-- For each entry there is its message, in the same place. -/
def Given (stream : String) (entries : List Stored) (messages : List Message) : Prop :=
  ∀ (k : Nat) (stored : Stored), entries[k]? = some stored →
    ∃ message, messages[k]? = some message ∧ stored.Gives stream k message

theorem Given.append {stream : String} {entries : List Stored} {messages : List Message}
    (given : Given stream entries messages) (more : List Message) :
    Given stream entries (messages ++ more) := by
  intro k stored found
  obtain ⟨message, there, gives⟩ := given k stored found
  have inside : k < messages.length := (List.getElem?_eq_some_iff.mp there).1
  exact ⟨message, (List.getElem?_append_left inside).trans there, gives⟩

theorem Given.snoc {stream : String} {entries : List Stored} {messages : List Message}
    {stored : Stored} {message : Message} (given : Given stream entries messages)
    (same : messages.length = entries.length)
    (gives : stored.Gives stream entries.length message) :
    Given stream (entries ++ [stored]) (messages ++ [message]) := by
  intro k other found
  rcases Nat.lt_or_ge k entries.length with inside | outside
  · rw [List.getElem?_append_left inside] at found
    exact given.append [message] k other found
  · rw [List.getElem?_append_right outside, List.getElem?_singleton] at found
    split at found
    next last =>
      cases found
      have place : k = entries.length := by omega
      refine ⟨message, ?_, place ▸ gives⟩
      rw [place, ← same, List.getElem?_concat_length]
    next => cases found

theorem not_new_of_read? {behind : String} {cursor : EntryId}
    (place : EntryId.read? behind = some cursor) : behind ≠ ">" := by
  rintro rfl
  have unread : EntryId.read? ">" = none := by decide
  cases unread.symm.trans place

theorem Given.length_le {stream : String} {entries : List Stored} {messages : List Message}
    (given : Given stream entries messages) : entries.length ≤ messages.length := by
  rcases Nat.lt_or_ge messages.length entries.length with fewer | enough
  · obtain ⟨message, there, _⟩ := given _ _ (List.getElem?_eq_getElem fewer)
    rw [List.getElem?_eq_none (Nat.le_refl _)] at there
    cases there
  · exact enough

namespace Consumer

/-! ## Reading behind an id -/

/-- What is read of an answer that tells of the entries that remain. -/
inductive Sees (stream : String) (rest : List Stored) (answer : Read Reply) : Prop
  | fault (fault : Fault) (read : answer.bind streamsOf = .error fault)
      (other : fault.mentions "NOGROUP" = false)
  | next (streams : List (String × List Entry)) (stored : Stored) (others : List Stored)
      (shape : Reply) (fields : Fields) (front : rest = stored :: others)
      (shown : stored.Shown shape (some fields)) (read : answer.bind streamsOf = .ok streams)
      (first : firstEntry? streams = some (stream, ⟨stored.id.text, fields⟩))
  | nothing (streams : List (String × List Entry)) (empty : rest = [])
      (read : answer.bind streamsOf = .ok streams) (none : firstEntry? streams = none)

/-- A server that tells of entries does not say that there is no group. -/
theorem Sees.grouped {stream : String} {rest : List Stored} {answer : Read Reply} {fault : Fault}
    (sees : Sees stream rest answer) (read : answer.bind streamsOf = .error fault) :
    fault.mentions "NOGROUP" = false := by
  cases sees with
  | fault _ same other =>
      cases read.symm.trans same
      exact other
  | next _ _ _ _ _ _ _ same => cases read.symm.trans same
  | nothing _ _ same => cases read.symm.trans same

theorem sees_of_shows {stream : String} {rest : List Stored} {reply : Reply}
    (shows : Shows stream rest.head? reply) : Sees stream rest (.ok reply) := by
  rcases shows.streamsOf with ⟨streams, read, empty, none⟩ |
    ⟨streams, stored, shape, fields, read, front, shown, first⟩ | illegible
  · exact .nothing streams (List.head?_eq_none_iff.mp empty) read none
  · obtain ⟨others, front⟩ := List.head?_eq_some_iff.mp front
    exact .next streams stored others shape fields front shown read first
  · exact .fault .misshapen illegible (by decide +kernel)

theorem sees_of_tells {on : Group} {name behind : String} {wait : Option Nat}
    {cursor : EntryId} {pending rest : List Stored} {answer : Read Reply}
    (tells : Tells on name pending ⟨.command (.readGroup on name wait behind), answer⟩)
    (place : EntryId.read? behind = some cursor)
    (front : firstBehind cursor pending = rest.head?) : Sees on.stream rest answer := by
  cases tells with
  | shown same shows =>
      cases place.symm.trans same
      rw [front] at shows
      exact sees_of_shows shows
  | failed read other => exact .fault _ read other
  | elsewhere other => exact absurd rfl (other wait behind (not_new_of_read? place))

/-! ## Asking for more -/

/-- Exchanges in which nothing is taken up again, and a consumer that does not go back. -/
structure Onward (consumer : Consumer) (exchanges : List Exchange) (after : Consumer) :
    Prop where
  cursor : after.cursor = consumer.cursor
  new : ∀ exchange ∈ exchanges, exchange.question.isReplay = false

theorem Claims.onward {consumer after : Consumer} {exchanges : List Exchange}
    {result : Except Fault (List Message)} (claims : Claims consumer exchanges (result, after)) :
    Onward consumer exchanges after := by
  cases claims with
  | groupless => exact ⟨rfl, by simp [Question.isReplay]⟩
  | unlisted => exact ⟨rfl, by simp [Question.isReplay]⟩
  | nothing => exact ⟨rfl, by simp [Question.isReplay]⟩
  | refused => exact ⟨rfl, by simp [Question.isReplay]⟩
  | taken =>
      rw [receiveAll_eq]
      exact ⟨rfl, by simp [Question.isReplay]⟩

theorem ClaimsWhenDue.onward {consumer after : Consumer} {exchanges : List Exchange}
    (claims : ClaimsWhenDue consumer exchanges after) : Onward consumer exchanges after := by
  cases claims with
  | early => exact ⟨rfl, by simp [Question.isReplay]⟩
  | added now due messages between claims =>
      exact ⟨claims.onward.cursor, List.forall_mem_cons.mpr ⟨rfl, claims.onward.new⟩⟩
  | failed now due fault between claims =>
      exact ⟨claims.onward.cursor, List.forall_mem_cons.mpr ⟨rfl, claims.onward.new⟩⟩

theorem Reads.onward {consumer after : Consumer} {wait : Option Nat}
    {exchanges : List Exchange} {result : Except Error (Option Message)}
    (reads : Reads consumer ">" wait exchanges (result, after)) :
    Onward consumer exchanges after := by
  cases reads with
  | entry => exact ⟨rfl, by simp [Question.isReplay]⟩
  | nothing => exact ⟨rfl, by simp [Question.isReplay]⟩
  | groupless => exact ⟨rfl, by simp [Question.isReplay]⟩
  | failed => exact ⟨rfl, by simp [Question.isReplay]⟩

theorem ReadsNew.onward {consumer after : Consumer} {timeout : Time.Span}
    {exchanges : List Exchange} {result : Except Error (Option Message)}
    (new : ReadsNew consumer timeout exchanges (result, after)) :
    Onward consumer exchanges after := by
  cases new with
  | taken between message rest claims waiting => exact ⟨claims.onward.cursor, claims.onward.new⟩
  | read between claims none reads =>
      exact ⟨reads.onward.cursor.trans claims.onward.cursor,
        List.forall_mem_append.mpr ⟨claims.onward.new, reads.onward.new⟩⟩

/-- Once nothing is left to take up, a call does not go back to it. -/
theorem Obeys.onward {consumer after : Consumer} {deed : Deed}
    (course : Obeys consumer deed after) (ended : consumer.cursor = none) :
    Onward consumer deed.exchanges after := by
  obtain ⟨call, exchanges, message⟩ := deed
  cases call with
  | subscribe topics =>
      obtain ⟨early, late, ⟨result, between⟩, rfl, subscribing, final⟩ :=
        course_bind_iff.mp course
      obtain ⟨rfl, same⟩ := course_pure_iff.mp final
      cases same
      rcases course_subscribe subscribing with ⟨stream, answer, rfl, rfl⟩ | ⟨rfl, rfl⟩
      · exact ⟨rfl, by simp [Question.isReplay]⟩
      · exact ⟨rfl, by simp⟩
  | poll timeout =>
      obtain ⟨result, _, polls⟩ := polls_of_perform course
      cases polls with
      | paused => exact ⟨rfl, by simp [Question.isReplay]⟩
      | waiting => exact ⟨rfl, by simp⟩
      | replayed _ _ cursor place => cases ended.symm.trans place
      | failed _ _ cursor place => cases ended.symm.trans place
      | ended _ _ cursor place => cases ended.symm.trans place
      | new _ _ _ new => exact new.onward
  | pause =>
      obtain ⟨rfl, same⟩ := course_pure_iff.mp course
      cases same
      exact ⟨rfl, by simp⟩
  | resume =>
      obtain ⟨rfl, same⟩ := course_pure_iff.mp course
      cases same
      exact ⟨rfl, by simp⟩
  | commit acknowledged =>
      obtain ⟨early, late, result, rfl, committing, final⟩ := course_bind_iff.mp course
      obtain ⟨rfl, same⟩ := course_pure_iff.mp final
      cases same
      obtain ⟨answer, rfl⟩ := course_commit committing
      exact ⟨rfl, by simp [Question.isReplay]⟩

/-! ## While entries remain -/

/-- The ways of a poll while entries are taken up again. -/
inductive Replays (consumer : Consumer) (timeout : Time.Span) (rest : List Stored) :
    List Exchange → Outcome (Option Message) → Prop
  | slept (stopped : consumer.paused = true) :
      Replays consumer timeout rest [⟨.sleep timeout, ()⟩] (.ok none, consumer)
  | failed (active : consumer.paused = false) (behind : String) (old : behind ≠ ">")
      (answer : Read Reply) (fault : Fault) (read : answer.bind streamsOf = .error fault) :
      Replays consumer timeout rest
        [⟨.command (.readGroup consumer.on consumer.name none behind), answer⟩]
        (.error fault.toBroker, consumer)
  | next (active : consumer.paused = false) (behind : String) (old : behind ≠ ">")
      (answer : Read Reply) (streams : List (String × List Entry)) (stored : Stored)
      (others : List Stored) (shape : Reply) (fields : Fields) (message : Message)
      (front : rest = stored :: others) (shown : stored.Shown shape (some fields))
      (read : answer.bind streamsOf = .ok streams)
      (first : firstEntry? streams = some (consumer.stream, ⟨stored.id.text, fields⟩))
      (given : message =
        Entry.message ⟨stored.id.text, fields⟩ consumer.stream consumer.nextOffset) :
      Replays consumer timeout rest
        [⟨.command (.readGroup consumer.on consumer.name none behind), answer⟩]
        (.ok (some message),
          { consumer with nextOffset := consumer.nextOffset + 1, cursor := some message.id })
  | ended {exchanges : List Exchange} {outcome : Outcome (Option Message)} (empty : rest = [])
      (after : outcome.2.cursor = none) : Replays consumer timeout rest exchanges outcome

theorem Polls.replays {consumer : Consumer} {timeout : Time.Span} {behind : String}
    {cursor : EntryId} {pending rest : List Stored} {exchanges : List Exchange}
    {outcome : Outcome (Option Message)} (polls : Polls consumer timeout exchanges outcome)
    (told : ∀ exchange ∈ exchanges, Tells consumer.on consumer.name pending exchange)
    (empty : consumer.claimed = []) (place : consumer.cursor = some behind)
    (stands : EntryId.read? behind = some cursor)
    (front : firstBehind cursor pending = rest.head?) :
    Replays consumer timeout rest exchanges outcome := by
  have old := not_new_of_read? stands
  cases polls with
  | paused stopped => exact .slept stopped
  | waiting _ message others waits => cases empty.symm.trans waits
  | new _ _ none => cases place.symm.trans none
  | replayed active _ _ same message after reads =>
      cases place.symm.trans same
      cases reads with
      | entry answer streams stream entry read first =>
          cases sees_of_tells (told _ List.mem_cons_self) stands front with
          | fault _ unread => cases read.symm.trans unread
          | next _ stored others shape fields front shown same found =>
              cases read.symm.trans same
              cases first.symm.trans found
              exact .next active behind old answer streams stored others shape fields _ front
                shown read first rfl
          | nothing _ _ same none =>
              cases read.symm.trans same
              cases first.symm.trans none
      | groupless _ _ _ _ _ _ silent => cases silent
  | failed active _ _ same error after reads =>
      cases place.symm.trans same
      cases reads with
      | groupless answer made fault _ read gone =>
          have sees := sees_of_tells (told _ List.mem_cons_self) stands front
          cases gone.symm.trans (sees.grouped read)
      | failed answer fault read => exact .failed active behind old answer fault read
  | ended active _ _ same after reads new =>
      cases place.symm.trans same
      refine .ended ?_ new.onward.cursor
      cases reads with
      | nothing answer streams read none =>
          have first := told _ (List.mem_append_left _ List.mem_cons_self)
          cases sees_of_tells first stands front with
          | fault _ unread => cases read.symm.trans unread
          | next _ _ _ _ _ _ _ same found =>
              cases read.symm.trans same
              cases none.symm.trans found
          | nothing _ empty => exact empty
      | groupless answer made fault _ read gone =>
          have sees := sees_of_tells (told _ List.mem_cons_self) stands front
          cases gone.symm.trans (sees.grouped read)

/-- A consumer that takes up again: some entries are done, and it stands before the others,
which are still among those that it has not acknowledged. -/
structure Replaying (on : Group) (name : String) (done rest : List Stored)
    (state : Recovery) : Prop where
  group : state.consumer.on = on
  name : state.consumer.name = name
  empty : state.consumer.claimed = []
  count : state.consumer.nextOffset = done.length
  cursor : ∃ text cursor, state.consumer.cursor = some text ∧
    EntryId.read? text = some cursor ∧ (∀ stored ∈ done, ¬ cursor < stored.id) ∧
    ∀ stored ∈ rest, cursor < stored.id
  pending : ∃ left, state.pending = left ++ rest ∧ ∀ stored ∈ left, stored ∈ done
  given : Given on.stream done state.returned
  length : state.returned.length = done.length

namespace Replaying

variable {on : Group} {name : String} {done rest : List Stored} {before after : Recovery}
  {deed : Deed}

/-- Acknowledgements take nothing away of what remains, as they are for what is done. -/
theorem left (replaying : Replaying on name done rest before)
    (sorted : (done ++ rest).Pairwise fun one other => one.id < other.id)
    (admitted : before.Admits deed.call) (remains : Remains before.pending deed after.pending)
    (quiet : ∀ exchange ∈ deed.exchanges, exchange.question.goesBeyond = false) :
    ∃ left, after.pending = left ++ rest ∧ ∀ stored ∈ left, stored ∈ done := by
  obtain ⟨left, pending, inside⟩ := replaying.pending
  generalize after.pending = now at remains
  cases remains with
  | all => exact ⟨left, pending, inside⟩
  | @acknowledged message called =>
      rw [called] at admitted
      obtain ⟨k, inBounds, place⟩ := List.mem_iff_getElem.mp admitted
      rw [replaying.length] at inBounds
      obtain ⟨other, there, gives⟩ :=
        replaying.given k done[k] (List.getElem?_eq_getElem inBounds)
      cases (List.getElem?_eq_some_iff.mpr ⟨_, place⟩).symm.trans there
      have apart : ∀ stored ∈ rest, (stored.id.text != message.id) = true := by
        intro stored member
        rw [bne_iff_ne, gives.id]
        intro same
        have less := (List.pairwise_append.mp sorted).2.2 done[k] (List.getElem_mem _) stored member
        rw [EntryId.text_injective same] at less
        exact EntryId.lt_irrefl _ less
      refine ⟨left.filter fun stored => stored.id.text != message.id, ?_, ?_⟩
      · rw [pending, List.filter_append, List.filter_eq_self.mpr apart]
      · exact fun stored member => inside stored (List.mem_filter.mp member).1
  | changed asked beyond => cases (quiet _ asked).symm.trans beyond

/-- A call that returns nothing, and does no more to the consumer than to pause it or not,
leaves what remains as it was. -/
theorem kept (replaying : Replaying on name done rest before)
    (sorted : (done ++ rest).Pairwise fun one other => one.id < other.id)
    (goes : before.Goes deed after)
    (quiet : ∀ exchange ∈ deed.exchanges, exchange.question.goesBeyond = false)
    (paused : Bool) (same : after.consumer = { before.consumer with paused })
    (silent : deed.returned = none) : Replaying on name done rest after := by
  have returned : after.returned = before.returned := by
    rw [goes.returned, silent]
    exact List.append_nil _
  constructor
  · rw [same]
    exact replaying.group
  · rw [same]
    exact replaying.name
  · rw [same]
    exact replaying.empty
  · rw [same]
    exact replaying.count
  · rw [same]
    exact replaying.cursor
  · exact replaying.left sorted goes.admitted goes.pending quiet
  · rw [returned]
    exact replaying.given
  · rw [returned]
    exact replaying.length

/-- A poll that returns the next entry is done with it. -/
theorem advanced {stored : Stored} {others : List Stored} {message : Message}
    (replaying : Replaying on name done (stored :: others) before)
    (sorted : (done ++ stored :: others).Pairwise fun one other => one.id < other.id)
    (goes : before.Goes deed after)
    (quiet : ∀ exchange ∈ deed.exchanges, exchange.question.goesBeyond = false)
    (same : after.consumer =
      { before.consumer with
        nextOffset := before.consumer.nextOffset + 1
        cursor := some message.id })
    (told : deed.returned = some message)
    (gives : stored.Gives on.stream before.consumer.nextOffset message) :
    Replaying on name (done ++ [stored]) others after := by
  have returned : after.returned = before.returned ++ [message] := by
    rw [goes.returned, told]
    rfl
  obtain ⟨_, ascending, between⟩ := List.pairwise_append.mp sorted
  constructor
  · rw [same]
    exact replaying.group
  · rw [same]
    exact replaying.name
  · rw [same]
    exact replaying.empty
  · rw [same, List.length_append]
    exact congrArg (· + 1) replaying.count
  · rw [same]
    refine ⟨message.id, stored.id, rfl, ?_, ?_, ?_⟩
    · rw [gives.id]
      exact EntryId.read?_text stored.id
    · intro earlier member
      rcases List.mem_append.mp member with front | last
      · exact EntryId.lt_asymm (between earlier front stored List.mem_cons_self)
      · cases List.mem_singleton.mp last
        exact EntryId.lt_irrefl stored.id
    · exact fun other member => List.rel_of_pairwise_cons ascending member
  · obtain ⟨left, pending, inside⟩ :=
      replaying.left sorted goes.admitted goes.pending quiet
    refine ⟨left ++ [stored], ?_, ?_⟩
    · rw [pending, List.append_assoc]
      rfl
    · intro other member
      rcases List.mem_append.mp member with front | last
      · exact List.mem_append_left _ (inside other front)
      · exact List.mem_append_right _ last
  · rw [returned]
    rw [replaying.count] at gives
    exact replaying.given.snoc replaying.length gives
  · rw [returned, List.length_append, List.length_append, replaying.length]
    rfl

/-- A poll takes up the next entry, or fails, or comes to the end of them. -/
theorem polled {timeout : Time.Span} (replaying : Replaying on name done rest before)
    (goes : before.Goes deed after) (called : deed.call = .poll timeout) :
    ∃ result, deed.returned = result.toOption.join ∧
      Replays before.consumer timeout rest deed.exchanges (result, after.consumer) := by
  have course := goes.obeys
  rw [Obeys, called] at course
  obtain ⟨result, told, polls⟩ := polls_of_perform course
  obtain ⟨text, cursor, place, stands, passed, ahead⟩ := replaying.cursor
  obtain ⟨left, pending, inside⟩ := replaying.pending
  have front : firstBehind cursor before.pending = rest.head? := by
    rw [pending]
    exact firstBehind_append (fun stored member => passed stored (inside stored member)) ahead
  exact ⟨result, told, polls.replays goes.told replaying.empty place stands front⟩

end Replaying

/-- Exchanges that neither ask for more than what remains nor find that nothing does. -/
def Quiet (deed : Deed) : Prop :=
  ∀ exchange ∈ deed.exchanges, exchange.question.goesBeyond = false ∧ ¬ Exhausts exchange

/-- Whether a call neither subscribes nor polls. -/
def Call.isIdle : Call → Bool
  | .subscribe _ => false
  | .poll _ => false
  | _ => true

/-- Such a call returns nothing, and does no more to the consumer than to pause it or not. -/
theorem Obeys.idle {consumer after : Consumer} {deed : Deed} (course : Obeys consumer deed after)
    (idle : deed.call.isIdle = true) :
    deed.returned = none ∧ (∃ paused, after = { consumer with paused }) ∧ Quiet deed := by
  obtain ⟨call, exchanges, message⟩ := deed
  cases call with
  | subscribe topics => cases idle
  | poll timeout => cases idle
  | pause =>
      obtain ⟨rfl, same⟩ := course_pure_iff.mp course
      cases same
      exact ⟨rfl, ⟨true, rfl⟩, by simp [Quiet]⟩
  | resume =>
      obtain ⟨rfl, same⟩ := course_pure_iff.mp course
      cases same
      exact ⟨rfl, ⟨false, rfl⟩, by simp [Quiet]⟩
  | commit acknowledged =>
      obtain ⟨early, late, result, rfl, committing, final⟩ := course_bind_iff.mp course
      obtain ⟨rfl, same⟩ := course_pure_iff.mp final
      cases same
      obtain ⟨answer, rfl⟩ := course_commit committing
      exact ⟨rfl, ⟨consumer.paused, rfl⟩, by simp [Quiet, Question.goesBeyond, Exhausts]⟩

/-- A call that neither subscribes nor polls leaves the place among the entries alone. -/
theorem Replaying.idle {on : Group} {name : String} {done rest : List Stored}
    {before after : Recovery} {deed : Deed} (replaying : Replaying on name done rest before)
    (sorted : (done ++ rest).Pairwise fun one other => one.id < other.id)
    (goes : before.Goes deed after) (idle : deed.call.isIdle = true) :
    Replaying on name done rest after ∧ Quiet deed := by
  obtain ⟨silent, ⟨paused, same⟩, quiet⟩ := goes.obeys.idle idle
  exact ⟨replaying.kept sorted goes (fun exchange member => (quiet exchange member).1) paused
    same silent, quiet⟩

/-- A call that returns nothing and changes nothing leaves the place among the entries alone. -/
theorem Replaying.stays {on : Group} {name : String} {done rest : List Stored}
    {before after : Recovery} {deed : Deed} (replaying : Replaying on name done rest before)
    (sorted : (done ++ rest).Pairwise fun one other => one.id < other.id)
    (goes : before.Goes deed after) (silent : deed.returned = none)
    (same : after.consumer = before.consumer) (quiet : Quiet deed) :
    Replaying on name done rest after :=
  replaying.kept sorted goes (fun exchange member => (quiet exchange member).1)
    before.consumer.paused same silent

/-- While entries remain, a call either leaves the consumer in the midst of them or is the
first that asks for more. -/
theorem Replaying.step {on : Group} {name : String} {done rest : List Stored}
    {before after : Recovery} {deed : Deed} (replaying : Replaying on name done rest before)
    (sorted : (done ++ rest).Pairwise fun one other => one.id < other.id)
    (goes : before.Goes deed after) :
    (∃ done' rest', done ++ rest = done' ++ rest' ∧ Replaying on name done' rest' after ∧
      Quiet deed) ∨
    rest = [] ∧ after.consumer.cursor = none := by
  obtain ⟨call, exchanges, message⟩ := deed
  cases call with
  | subscribe topics => exact absurd goes.admitted id
  | poll timeout =>
      obtain ⟨result, told, replays⟩ := replaying.polled goes rfl
      change message = result.toOption.join at told
      generalize called : after.consumer = final at replays
      cases replays with
      | slept stopped =>
          have quiet : Quiet ⟨.poll timeout, [⟨.sleep timeout, ()⟩], message⟩ := by
            simp [Quiet, Question.goesBeyond, Exhausts]
          exact Or.inl ⟨done, rest, rfl, replaying.stays sorted goes told called quiet, quiet⟩
      | failed active behind old answer fault read =>
          suffices quiet : Quiet _ from
            Or.inl ⟨done, rest, rfl, replaying.stays sorted goes told called quiet, quiet⟩
          simp [Quiet, Question.goesBeyond, Exhausts, old, read]
      | next active behind old answer streams stored others shape fields message front shown read
          first given =>
          subst front
          have gives : stored.Gives on.stream before.consumer.nextOffset message :=
            ⟨shape, fields, shown, replaying.group ▸ given⟩
          have split : done ++ stored :: others = (done ++ [stored]) ++ others := by simp
          suffices quiet : Quiet _ from
            Or.inl ⟨done ++ [stored], others, split,
              replaying.advanced sorted goes (fun exchange member => (quiet exchange member).1)
                called told gives, quiet⟩
          simp [Quiet, Question.goesBeyond, Exhausts, old, read, first]
      | ended empty ended =>
          exact Or.inr ⟨empty, called ▸ ended⟩
  | pause => exact Or.inl ⟨done, rest, rfl, replaying.idle sorted goes rfl⟩
  | resume => exact Or.inl ⟨done, rest, rfl, replaying.idle sorted goes rfl⟩
  | commit acknowledged => exact Or.inl ⟨done, rest, rfl, replaying.idle sorted goes rfl⟩

/-! ## Over a whole run -/

/-- Where a consumer stands after some calls: in the midst of the entries, with nothing asked
beyond them so far, or past them for good. -/
structure Standing (on : Group) (name : String) (initial : List Stored) (earlier : List Deed)
    (state : Recovery) : Prop where
  tallied : Tallied earlier state.consumer
  returned : state.returned = Consumer.returned earlier
  phase : (∃ done rest, initial = done ++ rest ∧ Replaying on name done rest state ∧
      ∀ deed ∈ earlier, Quiet deed) ∨
    state.consumer.cursor = none ∧ Given on.stream initial state.returned

theorem Standing.step {on : Group} {name : String} {initial : List Stored}
    {earlier : List Deed} {before after : Recovery} {deed : Deed}
    (sorted : initial.Pairwise fun one other => one.id < other.id)
    (standing : Standing on name initial earlier before) (goes : before.Goes deed after) :
    Standing on name initial (earlier ++ [deed]) after := by
  have returned : after.returned = Consumer.returned (earlier ++ [deed]) := by
    rw [goes.returned, standing.returned, returned_append]
  refine ⟨standing.tallied.step goes.obeys, returned, ?_⟩
  rcases standing.phase with ⟨done, rest, rfl, replaying, quiet⟩ | ⟨past, given⟩
  · rcases replaying.step sorted goes with ⟨done', rest', same, onward, still⟩ | ⟨rfl, past⟩
    · refine Or.inl ⟨done', rest', same, onward, ?_⟩
      exact List.forall_mem_append.mpr ⟨quiet, List.forall_mem_singleton.mpr still⟩
    · refine Or.inr ⟨past, ?_⟩
      rw [goes.returned, List.append_nil]
      exact replaying.given.append _
  · refine Or.inr ⟨(goes.obeys.onward past).cursor.trans past, ?_⟩
    rw [goes.returned]
    exact given.append _

/-- A consumer that has subscribed stands before all of the entries. -/
theorem replaying_subscribed {group name stream : String} {claimIdle : Time.Span}
    {exchanges : List Exchange} {consumer : Consumer} {pending : List Stored}
    (subscribed : Course (Consumer.subscribe { group, name, claimIdle } [stream]) exchanges
      (.ok (), consumer))
    (valid : ∀ stored ∈ pending, (⟨0, 0⟩ : EntryId) < stored.id) :
    Tallied [] consumer ∧ Replaying ⟨stream, group⟩ name [] pending { consumer, pending } := by
  obtain ⟨early, late, made, rfl, making, final⟩ := course_bind_iff.mp subscribed
  obtain ⟨rfl, same⟩ := course_pure_iff.mp final
  cases same
  have start : EntryId.read? "0" = some ⟨0, 0⟩ := by decide
  exact ⟨⟨rfl, rfl, rfl⟩,
    { group := rfl
      name := rfl
      empty := rfl
      count := rfl
      cursor := ⟨"0", ⟨0, 0⟩, rfl, start, by simp, valid⟩
      pending := ⟨[], rfl, by simp⟩
      given := fun k stored found => by cases found
      length := rfl }⟩

theorem standing_subscribed {group name stream : String} {claimIdle : Time.Span}
    {exchanges : List Exchange} {consumer : Consumer} {pending : List Stored}
    (subscribed : Course (Consumer.subscribe { group, name, claimIdle } [stream]) exchanges
      (.ok (), consumer))
    (valid : ∀ stored ∈ pending, (⟨0, 0⟩ : EntryId) < stored.id) :
    Standing ⟨stream, group⟩ name pending [] { consumer, pending } := by
  obtain ⟨tallied, replaying⟩ := replaying_subscribed subscribed valid
  exact ⟨tallied, rfl, Or.inl ⟨[], pending, rfl, replaying, by simp⟩⟩

/-- As long as fewer messages are returned than there are entries, some of these remain. -/
theorem Standing.remaining {on : Group} {name : String} {initial : List Stored}
    {earlier : List Deed} {state : Recovery} (standing : Standing on name initial earlier state)
    (fewer : (Consumer.returned earlier).length < initial.length) :
    ∃ done rest, initial = done ++ rest ∧ rest ≠ [] ∧ Replaying on name done rest state := by
  rw [← standing.returned] at fewer
  rcases standing.phase with ⟨done, rest, rfl, replaying, _⟩ | ⟨_, given⟩
  · refine ⟨done, rest, rfl, ?_, replaying⟩
    rintro rfl
    rw [replaying.length, List.append_nil] at fewer
    exact Nat.lt_irrefl _ fewer
  · exact absurd given.length_le (Nat.not_le_of_lt fewer)

/-- While some of the entries remain, no call asks for more than these. -/
theorem Standing.quiet {on : Group} {name : String} {initial : List Stored}
    {earlier : List Deed} {before after : Recovery} {deed : Deed}
    (sorted : initial.Pairwise fun one other => one.id < other.id)
    (standing : Standing on name initial earlier before) (goes : before.Goes deed after)
    (fewer : (Consumer.returned earlier).length < initial.length) : Quiet deed := by
  obtain ⟨done, rest, rfl, some, replaying⟩ := standing.remaining fewer
  rcases replaying.step sorted goes with ⟨_, _, _, _, quiet⟩ | ⟨empty, _⟩
  · exact quiet
  · exact absurd empty some

theorem Standing.order {on : Group} {name : String} {initial : List Stored}
    {earlier : List Deed} {state : Recovery} (standing : Standing on name initial earlier state)
    {k : Nat} {stored : Stored} {message : Message} (entry : initial[k]? = some stored)
    (place : (Consumer.returned earlier)[k]? = some message) :
    stored.Gives on.stream k message := by
  rw [← standing.returned] at place
  have given {entries : List Stored} (given : Given on.stream entries state.returned)
      (found : entries[k]? = some stored) : stored.Gives on.stream k message := by
    obtain ⟨other, there, gives⟩ := given k stored found
    cases place.symm.trans there
    exact gives
  rcases standing.phase with ⟨done, rest, rfl, replaying, _⟩ | ⟨_, all⟩
  · have inside : k < done.length := replaying.length ▸ (List.getElem?_eq_some_iff.mp place).1
    exact given replaying.given ((List.getElem?_append_left inside).symm.trans entry)
  · exact given all entry

/-- Once it has turned out that nothing is left, it is never gone back to. -/
theorem Standing.past {on : Group} {name : String} {initial : List Stored}
    {earlier : List Deed} {state : Recovery} (standing : Standing on name initial earlier state)
    {deed : Deed} (member : deed ∈ earlier)
    (found : ∃ exchange ∈ deed.exchanges, Exhausts exchange) :
    state.consumer.cursor = none := by
  obtain ⟨exchange, asked, exhausts⟩ := found
  rcases standing.phase with ⟨_, _, _, _, quiet⟩ | ⟨past, _⟩
  · exact absurd exhausts (quiet deed member exchange asked).2
  · exact past

/-- What can be relied on when a consumer comes back to entries it has not acknowledged. -/
structure Recovered (on : Group) (name : String) (initial : List Stored) (deeds : List Deed) :
    Prop where
  /-- The messages that are returned first are those of the entries, each in its place. -/
  order : ∀ (k : Nat) (stored : Stored) (message : Message), initial[k]? = some stored →
    (returned deeds)[k]? = some message → stored.Gives on.stream k message
  /-- Until all of them are returned nothing else is asked for. -/
  first : ∀ early deed late, deeds = early ++ deed :: late →
    (returned early).length < initial.length →
    ∀ exchange ∈ deed.exchanges, exchange.question.goesBeyond = false
  /-- Meanwhile each poll asks once, and returns a message unless the answer is a fault. -/
  progress : ∀ early deed late timeout, deeds = early ++ deed :: late →
    deed.call = .poll timeout → isPaused early = false →
    (returned early).length < initial.length →
    ∃ behind answer, behind ≠ ">" ∧
      deed.exchanges = [⟨.command (.readGroup on name none behind), answer⟩] ∧
      (deed.returned = none → ∃ fault, answer.bind streamsOf = .error fault)
  /-- It turns out only then that nothing is left. -/
  complete : ∀ early deed late, deeds = early ++ deed :: late →
    (∃ exchange ∈ deed.exchanges, Exhausts exchange) →
    initial.length ≤ (returned early).length
  /-- From then on it is never gone back to. -/
  ended : ∀ early deed late, deeds = early ++ deed :: late →
    (∃ exchange ∈ deed.exchanges, Exhausts exchange) →
    ∀ later ∈ late, ∀ exchange ∈ later.exchanges, exchange.question.isReplay = false

/-- A consumer that comes back takes up the entries it had not acknowledged, in order and each
of them once, before it asks for anything else, and never starts over. -/
theorem unacknowledged_recovered (group name stream : String) (claimIdle : Time.Span)
    (exchanges : List Exchange) (consumer : Consumer)
    (subscribed : Course (Consumer.subscribe { group, name, claimIdle } [stream]) exchanges
      (.ok (), consumer))
    (pending : List Stored) (sorted : pending.Pairwise fun one other => one.id < other.id)
    (valid : ∀ stored ∈ pending, (⟨0, 0⟩ : EntryId) < stored.id)
    (deeds : List Deed) (final : Recovery)
    (run : Run Recovery.Goes { consumer, pending } deeds final) :
    Recovered ⟨stream, group⟩ name pending deeds := by
  have stands {earlier : List Deed} {state : Recovery}
      (run : Run Recovery.Goes { consumer, pending } earlier state) :
      Standing ⟨stream, group⟩ name pending earlier state :=
    run.invariant (standing_subscribed subscribed valid) (Standing.step sorted)
  constructor
  · exact fun k stored message => (stands run).order
  · intro early deed late place fewer exchange member
    obtain ⟨before, after, earlier, goes⟩ := run.split place
    exact ((stands earlier).quiet sorted goes fewer exchange member).1
  · intro early deed late timeout place called active fewer
    obtain ⟨before, after, earlier, goes⟩ := run.split place
    obtain ⟨done, rest, same, some, replaying⟩ := (stands earlier).remaining fewer
    obtain ⟨result, told, replays⟩ := replaying.polled goes called
    have awake : before.consumer.paused = false := (stands earlier).tallied.paused.trans active
    rw [told, ← replaying.group, ← replaying.name]
    generalize deed.exchanges = exchanges, after.consumer = next at replays
    cases replays with
    | slept stopped => cases awake.symm.trans stopped
    | failed _ behind old answer fault read =>
        exact ⟨behind, answer, old, rfl, fun _ => ⟨fault, read⟩⟩
    | next _ behind old answer =>
        exact ⟨behind, answer, old, rfl, fun none => by cases none⟩
    | ended empty => exact absurd empty some
  · intro early deed late place found
    obtain ⟨before, after, earlier, goes⟩ := run.split place
    obtain ⟨exchange, member, exhausts⟩ := found
    rcases Nat.lt_or_ge (returned early).length pending.length with fewer | enough
    · exact absurd exhausts ((stands earlier).quiet sorted goes fewer exchange member).2
    · exact enough
  · intro early deed late place found later member
    obtain ⟨front, back, rfl⟩ := List.append_of_mem member
    have place' : deeds = (early ++ deed :: front) ++ later :: back := by simp [place]
    obtain ⟨before, after, earlier, goes⟩ := run.split place'
    have past := (stands earlier).past (by simp) found
    exact (goes.obeys.onward past).new

/-- The replies of a server that shows entries, has no new ones, and knows of no other
consumer. -/
def showing (pending : List Stored) : Command → Reply
  | .readGroup on _ _ behind =>
      match EntryId.read? behind with
      | none => if behind = ">" then .nil else .status "ERR"
      | some cursor =>
          streamReply on.stream ((firstBehind cursor pending).toList.map fun stored =>
            entryReply stored.id.text stored.fields.words)
  | .pending _ _ => .list []
  | _ => .integer 1

/-- Surroundings in which such a server may be out of reach. -/
def surroundings (pending : List Stored) (reached : Bool) :
    (question : Question) → question.Answer
  | .connect _ => .ok ()
  | .command command => if reached then .ok (showing pending command) else .error .misshapen
  | .clock => ⟨0⟩
  | .drawJitter => .none
  | .sleep _ => ()

theorem tells_surroundings (on : Group) (name : String) (pending : List Stored)
    (reached : Bool) (question : Question) :
    Tells on name pending ⟨question, surroundings pending reached question⟩ := by
  by_cases replay : ∃ wait behind, behind ≠ ">" ∧
      question = .command (.readGroup on name wait behind)
  · obtain ⟨wait, behind, old, rfl⟩ := replay
    cases reached with
    | false => exact .failed rfl (by decide +kernel)
    | true =>
        simp only [surroundings, if_true, showing]
        cases place : EntryId.read? behind with
        | none =>
            simp only [if_neg old]
            exact .failed rfl (by decide +kernel)
        | some cursor =>
            refine .shown place ?_
            dsimp only
            cases firstBehind cursor pending with
            | none => exact .empty
            | some stored => exact .entry stored .whole
  · exact .elsewhere fun wait behind old same => replay ⟨wait, behind, old, same⟩

/-- A call in such surroundings. -/
def deedIn (reached : Bool) (before : Recovery) (call : Call) : Deed :=
  let course := (before.consumer.perform call).follow (surroundings before.pending reached)
  ⟨call, course.1, course.2.1⟩

/-- What a call in such surroundings leaves, with entries that are still not acknowledged. -/
def leftBy (reached : Bool) (before : Recovery) (call : Call) (pending : List Stored) :
    Recovery :=
  let course := (before.consumer.perform call).follow (surroundings before.pending reached)
  ⟨course.2.2, pending, before.returned ++ course.2.1.toList⟩

theorem goes_leftBy (reached : Bool) {before : Recovery} (call : Call) {pending : List Stored}
    (admitted : before.Admits call)
    (remains : Remains before.pending (deedIn reached before call) pending) :
    before.Goes (deedIn reached before call) (leftBy reached before call pending) := by
  refine ⟨admitted, course_follow _ _, ?_, remains, rfl⟩
  rintro ⟨question, answer⟩ member
  rw [answer_of_mem_follow member]
  exact tells_surroundings _ _ _ _ _

/-- Of three entries the first is acknowledged before a poll fails and the consumer is paused
for a while; the others come after it, and then no more of them. -/
theorem unacknowledged_recovered_three :
    let fresh : Consumer := { group := "stt", name := "worker" }
    let pending : List Stored := [⟨⟨7, 0⟩, []⟩, ⟨⟨7, 1⟩, []⟩, ⟨⟨12, 0⟩, []⟩]
    ∃ consumer deeds final, Course (fresh.subscribe ["jobs"])
        [⟨.command (.createGroup ⟨"jobs", "stt"⟩), .ok (.status "OK")⟩] (.ok (), consumer) ∧
      Run Recovery.Goes { consumer, pending } deeds final ∧
      deeds.map (fun deed => deed.returned.map Message.id) =
        [some "7-0", none, none, none, none, none, some "7-1", some "12-0", none, none] ∧
      Recovered ⟨"jobs", "stt"⟩ "worker" pending deeds := by
  intro fresh pending
  let start : Recovery := { consumer := { fresh with stream := "jobs" }, pending }
  have subscribed : Course (fresh.subscribe ["jobs"])
      [⟨.command (.createGroup ⟨"jobs", "stt"⟩), .ok (.status "OK")⟩] (.ok (), start.consumer) :=
    .ask _ _ _ (.done _)
  have next {earlier : List Deed} {before : Recovery} (reached : Bool) (call : Call)
      (run : Run Recovery.Goes start earlier before) (admitted : before.Admits call) :
      Run Recovery.Goes start (earlier ++ [deedIn reached before call])
        (leftBy reached before call before.pending) :=
    run.next _ (goes_leftBy reached call admitted .all)
  have first := next true (.poll ⟨1⟩) .none trivial
  let message : Message := Entry.message ⟨"7-0", []⟩ "jobs" 0
  have returned : message ∈ (leftBy true start (.poll ⟨1⟩) pending).returned := by
    decide +kernel
  have acknowledged := first.next _
    (goes_leftBy true (.commit message) returned (.acknowledged rfl))
  have failed := next false (.poll ⟨1⟩) acknowledged trivial
  have paused := next true (.poll ⟨1⟩) (next true .pause failed trivial) trivial
  have second := next true (.poll ⟨1⟩) (next true .resume paused trivial) trivial
  have third := next true (.poll ⟨1⟩) second trivial
  have run := next true (.poll ⟨1⟩) (next true (.poll ⟨1⟩) third trivial) trivial
  refine ⟨start.consumer, _, _, subscribed, run, ?_,
    unacknowledged_recovered "stt" "worker" "jobs" _ _ _ subscribed pending (by decide)
      (by decide) _ _ run⟩
  decide +kernel

end Consumer

end Scribe.Stream
