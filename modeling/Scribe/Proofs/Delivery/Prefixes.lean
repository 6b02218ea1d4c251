import Scribe.Proofs.Delivery.Stages

/-!
# Commits follow the order of delivery

Where the consumer delivers rising offsets in each partition, the watermark is a function
of what was delivered and of what is still unclosed: `Ledger.of`.  So the messages that
were released so far, committed or not yet, are in each partition the longest run of
closed messages from its start.  The commits are asked in the order of release, and so
they are a prefix of what was delivered.
-/

namespace Scribe.Delivery

open Scribe.Broker

theorem inPlace_of_own {place : Place} {messages : List Message}
    (own : ∀ message ∈ messages, Place.of message = place) :
    inPlace place messages = messages := by
  apply List.filter_eq_self.mpr
  intro message member
  simpa using own message member

theorem inPlace_of_foreign {place : Place} {messages : List Message}
    (foreign : ∀ message ∈ messages, Place.of message ≠ place) :
    inPlace place messages = [] := by
  apply List.filter_eq_nil_iff.mpr
  intro message member
  simpa using foreign message member

namespace Dispatch

open History

/-- Whether the watermark waits for a message no more. -/
def isClosed (dispatch : Dispatch) (events : List Event) (message : Message) : Bool :=
  decide (message ∉ dispatch.unclosed events)

/-- What the watermark knows and has released, in each partition. -/
structure Orderly (dispatch : Dispatch) (events : List Event) : Prop where
  ledgers : ∀ place, dispatch.watermark.ledger place =
    Ledger.of (inPlace place (delivered events)) (dispatch.isClosed events)
  released : ∀ place, inPlace place (committed events ++ dispatch.uncommitted) =
    (inPlace place (delivered events)).takeWhile (dispatch.isClosed events)

theorem orderly_initial (limits : Limits) : Orderly (initial limits) [] where
  ledgers := by
    intro place
    rfl
  released := by
    intro place
    rfl

theorem isClosed_congr {before after : Dispatch} {events later : List Event}
    (unclosed : (after.unclosed (events ++ later)).Perm (before.unclosed events)) :
    after.isClosed (events ++ later) = before.isClosed events := by
  funext message
  simp only [isClosed, unclosed.mem_iff]

theorem Orderly.same {before after : Dispatch} {events later : List Event}
    (orderly : Orderly before events)
    (unclosed : (after.unclosed (events ++ later)).Perm (before.unclosed events))
    (nothing : delivered later = [])
    (watermark : after.watermark = before.watermark)
    (uncommitted : committed later ++ after.uncommitted = before.uncommitted) :
    Orderly after (events ++ later) where
  ledgers := by
    intro place
    rw [watermark, isClosed_congr unclosed, delivered_append, nothing, List.append_nil]
    exact orderly.ledgers place
  released := by
    intro place
    rw [isClosed_congr unclosed, delivered_append, nothing, List.append_nil, committed_append,
      List.append_assoc, uncommitted]
    exact orderly.released place

/-- A message that comes in is open, and changes nothing for those before it. -/
theorem Orderly.opened {before after : Dispatch} {events later : List Event}
    {message : Message} (orderly : Orderly before events)
    (ascending : Ascending (delivered (events ++ later)))
    (unclosed : (after.unclosed (events ++ later)).Perm (message :: before.unclosed events))
    (received : delivered later = [message])
    (watermark : after.watermark = before.watermark.track message)
    (uncommitted : committed later ++ after.uncommitted = before.uncommitted) :
    Orderly after (events ++ later) := by
  have all : delivered (events ++ later) = delivered events ++ [message] := by
    rw [delivered_append, received]
  have open_ : after.isClosed (events ++ later) message = false := by
    simp [isClosed, unclosed.mem_iff]
  have others : ∀ place, ∀ other ∈ inPlace place (delivered events),
      before.isClosed events other = after.isClosed (events ++ later) other := by
    intro place other member
    have nodup := ascending.distinct.nodup
    rw [all] at nodup
    have differs : other ≠ message :=
      (List.nodup_append.mp nodup).2.2 other (mem_inPlace.mp member).1 message
        List.mem_cons_self
    simp [isClosed, unclosed.mem_iff, differs]
  have rising := ascending.rising
  rw [all] at rising
  constructor
  · intro place
    rw [watermark, all, inPlace_append]
    by_cases here : place = Place.of message
    · subst here
      rw [Watermark.ledger_track_self, orderly.ledgers, inPlace_singleton_self,
        Ledger.of_congr (others _)]
      apply Ledger.of_track _ open_
      have rises := rising (Place.of message)
      rwa [inPlace_append, inPlace_singleton_self] at rises
    · rw [Watermark.ledger_track_other _ here, orderly.ledgers,
        inPlace_singleton_other (Ne.symm here), List.append_nil]
      exact Ledger.of_congr (others place)
  · intro place
    rw [committed_append, List.append_assoc, uncommitted, orderly.released, all,
      inPlace_append, Ledger.takeWhile_congr (others place)]
    by_cases here : Place.of message = place
    · subst here
      rw [inPlace_singleton_self, Ledger.takeWhile_append_of_open open_]
    · rw [inPlace_singleton_other here, List.append_nil]

/-- When a message leaves the unclosed ones, it is closed besides those that were. -/
theorem isClosed_closing {before after : Dispatch} {events later : List Event}
    {message : Message} (custody : Custody before events)
    (distinct : Distinct (delivered events))
    (unclosed : (before.unclosed events).Perm (message :: after.unclosed (events ++ later))) :
    after.isClosed (events ++ later) = Ledger.closing (before.isClosed events) message := by
  have apart : message ∉ after.unclosed (events ++ later) := by
    intro there
    exact custody.apart distinct unclosed message (List.mem_append_left _ there) rfl
  funext other
  by_cases same : other = message
  · rw [same, Ledger.closing_self]
    exact decide_eq_true apart
  · rw [Ledger.closing_of_ne same]
    simp [isClosed, same, unclosed.mem_iff]

/-- A message that is not closed was delivered, and stands in its partition. -/
theorem Custody.tracks {dispatch : Dispatch} {events : List Event} {message : Message}
    (custody : Custody dispatch events) (member : message ∈ dispatch.unclosed events) :
    message ∈ inPlace (Place.of message) (delivered events) := by
  refine mem_inPlace.mpr ⟨custody.mem_delivered ?_, rfl⟩
  simp [holdings, member]

theorem isClosed_of_mem {dispatch : Dispatch} {events : List Event} {message : Message}
    (member : message ∈ dispatch.unclosed events) : dispatch.isClosed events message = false := by
  simp [isClosed, member]

/-- What the ledger of an unclosed message does when that message is closed. -/
theorem Orderly.completes {dispatch : Dispatch} {events : List Event} {message : Message}
    (orderly : Orderly dispatch events) (custody : Custody dispatch events)
    (ascending : Ascending (delivered events)) (member : message ∈ dispatch.unclosed events) :
    (dispatch.watermark.ledger (Place.of message)).complete message =
      (((inPlace (Place.of message) (delivered events)).dropWhile
          (dispatch.isClosed events)).takeWhile
            (Ledger.closing (dispatch.isClosed events) message),
        Ledger.of (inPlace (Place.of message) (delivered events))
          (Ledger.closing (dispatch.isClosed events) message)) := by
  rw [orderly.ledgers]
  exact Ledger.of_complete (ascending.rising _) (custody.tracks member) (isClosed_of_mem member)

/-- A message that is closed lengthens the run of closed messages, or is held back. -/
theorem Orderly.closed {before after : Dispatch} {events later : List Event}
    {message : Message} (orderly : Orderly before events) (custody : Custody before events)
    (ascending : Ascending (delivered events))
    (unclosed : (before.unclosed events).Perm (message :: after.unclosed (events ++ later)))
    (nothing : delivered later = [])
    (watermark : after.watermark = (before.watermark.complete message).2)
    (uncommitted : after.uncommitted =
      before.uncommitted ++ (before.watermark.complete message).1)
    (none : committed later = []) : Orderly after (events ++ later) := by
  have member : message ∈ before.unclosed events := unclosed.mem_iff.mpr List.mem_cons_self
  have open_ := custody.open_of_mem member
  have completes := orderly.completes custody ascending member
  have closes := isClosed_closing custody ascending.distinct unclosed
  have all : delivered (events ++ later) = delivered events := by
    rw [delivered_append, nothing, List.append_nil]
  have elsewhere : ∀ place, place ≠ Place.of message →
      ∀ other ∈ inPlace place (delivered events), before.isClosed events other =
        Ledger.closing (before.isClosed events) message other := by
    intro place foreign other lies
    symm
    apply Ledger.closing_of_ne
    rintro rfl
    exact foreign (mem_inPlace.mp lies).2.symm
  have own : ∀ released ∈ (before.watermark.complete message).1,
      Place.of released = Place.of message := by
    intro released out
    rw [Watermark.complete_fst open_, completes] at out
    have dropped := (List.takeWhile_prefix _).mem out
    exact (mem_inPlace.mp ((List.dropWhile_sublist _).mem dropped)).2
  constructor
  · intro place
    rw [watermark, all, closes]
    by_cases here : place = Place.of message
    · rw [here, Watermark.ledger_complete_self open_, completes]
    · rw [Watermark.ledger_complete_other open_ here, orderly.ledgers]
      exact Ledger.of_congr (elsewhere place here)
  · intro place
    rw [committed_append, none, List.append_nil, uncommitted, ← List.append_assoc,
      inPlace_append, orderly.released, all, closes]
    by_cases here : place = Place.of message
    · rw [here, inPlace_of_own own, Watermark.complete_fst open_, completes]
      symm
      apply Ledger.takeWhile_more
      intro other finished
      exact Ledger.closing_of_closed finished message
    · have foreign : inPlace place (before.watermark.complete message).1 = [] := by
        apply inPlace_of_foreign
        intro released out same
        exact here (same.symm.trans (own released out))
      rw [foreign, List.append_nil]
      exact Ledger.takeWhile_congr (elsewhere place here)

theorem Reached.orderly {limits : Limits} {dispatch : Dispatch} {events : List Event}
    (reached : Reached limits dispatch events) (ascending : Ascending (delivered events)) :
    Orderly dispatch events := by
  induction reached with
  | start => exact orderly_initial limits
  | @step before after _ events later reached possible ih =>
      have earlier : Ascending (delivered events) := ascending_delivered_left ascending
      cases (step_passes reached.sound possible).reckoning events with
      | same unclosed nothing watermark uncommitted =>
          exact (ih earlier).same unclosed nothing watermark uncommitted
      | opened message unclosed received watermark uncommitted none =>
          exact (ih earlier).opened ascending unclosed received watermark uncommitted
      | closed message unclosed nothing watermark uncommitted none =>
          exact (ih earlier).closed (reached.custody earlier.distinct) earlier unclosed nothing
            watermark uncommitted none

/-- The accepted commits of a partition come first among what was delivered there. -/
theorem Orderly.committed_first {dispatch : Dispatch} {events : List Event}
    (orderly : Orderly dispatch events) (place : Place) :
    inPlace place (committed events) <+: inPlace place (delivered events) := by
  have released := orderly.released place
  rw [inPlace_append] at released
  have front : inPlace place (committed events) <+:
      (inPlace place (delivered events)).takeWhile (dispatch.isClosed events) := by
    rw [← released]
    exact List.prefix_append _ _
  exact front.trans (List.takeWhile_prefix _)

end Dispatch

/-! ## Commits of a run -/

open History Dispatch

/-- The commits of a history follow the order of delivery: without a gap and without a
repetition, each for a message whose latest outcome settled it, and after a refused one
for the same message again. -/
structure CommitsInOrder (events : List Event) : Prop where
  first : ∀ place, inPlace place (committed events) <+: inPlace place (delivered events)
  settled : ∀ early message late, events = early ++ .committed message :: late →
    ∃ disposition, outcome? message early = some disposition ∧ disposition.settles = true
  again : ∀ early refused between event message late,
    events = early ++ .commitFailed refused :: (between ++ event :: late) →
    (∀ other ∈ between, other.asked? = none) → event.asked? = some message →
    message = refused

/-- Whatever the workers, the consumer and the shutdown do, and in whatever order: where
the offsets of each partition rise, the commits are in order at every moment. -/
theorem commits_in_order (limits : Limits) (moves : List Move) (dispatch : Dispatch)
    (events : List Event) (run : (initial limits).steps moves = some (dispatch, events))
    (ascending : Ascending (delivered events)) : CommitsInOrder events := by
  have reached := reached_of_steps run
  have lawful := reached.lawful ascending.distinct
  constructor
  · exact (reached.orderly ascending).committed_first
  · intro early message late split_
    have fits : MayAsk early message := lawful early _ late split_
    exact outcome?_of_settled fits.1
  · intro early refused between event message late split_ silent about
    rw [split_] at lawful
    exact lawful.asked_again silent about

/-- Two messages finish in the wrong order, and the first commit is refused once. -/
theorem commits_in_order_two :
    let message (offset : Int) : Message := ⟨"stt.jobs", 0, offset, none, .empty, [], ""⟩
    let moves : List Move :=
      [.subscribed (.ok ()), .worker 0 .look, .worker 1 .look,
        .proceed, .proceed, .proceed, .proceed, .proceed, .polled (.ok (some (message 0))),
        .proceed, .worker 0 .take,
        .proceed, .proceed, .proceed, .proceed, .proceed, .polled (.ok (some (message 1))),
        .proceed, .worker 1 .take, .worker 1 (.finish .completed),
        .worker 0 (.finish .deadLettered), .proceed, .proceed, .proceed, .proceed,
        .commit (.error .closed), .proceed, .proceed, .polled (.ok none),
        .proceed, .proceed, .commit (.ok ()), .commit (.ok ())]
    ∃ dispatch events, (initial { concurrency := 2 }).steps moves = some (dispatch, events) ∧
      committed events = [message 0, message 1] ∧ CommitsInOrder events := by
  intro message moves
  refine ⟨_, _, rfl, by decide, ?_⟩
  exact commits_in_order { concurrency := 2 } moves _ _ rfl (by decide)

end Scribe.Delivery
