import Mathlib.Data.List.Pairwise
import Scribe.Proofs.Delivery.Shutdown

/-!
# Conservation of messages

Eight holders can have a delivered message: the hand of the dispatcher, the intake, the
workers, the outcomes that were not taken, the redelivery, the watermark, the released
messages, and the consumer that accepted the commit.  As long as no worker breaks down
each delivered message is with exactly one of them, and a message is handed out again only
after its outcome was taken and had not settled it.  When the loop has ended, what was
handed out has an outcome that was taken, and what waits is not committed.
-/

namespace Scribe.Delivery

open Scribe.Broker

/-- Who can have a delivered message. -/
inductive Holder
  | hand
  | intake
  | worker
  | outcome
  | redelivery
  | watermark
  | released
  | consumer
deriving DecidableEq, Repr

namespace Holder

/-- All holders. -/
def all : List Holder :=
  [.hand, .intake, .worker, .outcome, .redelivery, .watermark, .released, .consumer]

/-- Whether the messages of a holder are in flight. -/
def isOpen : Holder → Bool
  | .watermark => false
  | .released => false
  | .consumer => false
  | _ => true

/-- Whether the messages of a holder wait for a worker. -/
def isWaiting : Holder → Bool
  | .hand => true
  | .intake => true
  | .redelivery => true
  | _ => false

theorem mem_all (holder : Holder) : holder ∈ all := by
  cases holder <;> decide

end Holder

namespace Dispatch

open History

/-- The messages of a holder. -/
def held (dispatch : Dispatch) (events : List Event) : Holder → List Message
  | .hand => dispatch.offered
  | .intake => dispatch.pool.intake
  | .worker => dispatch.pool.busy
  | .outcome => dispatch.pool.outcomes.map Outcome.message
  | .redelivery => dispatch.redelivery
  | .watermark => dispatch.watermark.finished
  | .released => dispatch.uncommitted
  | .consumer => committed events

/-- Where each message is: with one holder, once, and in flight as long as nothing has
settled it. -/
structure Conserved (dispatch : Dispatch) (events : List Event) : Prop where
  somewhere : ∀ message ∈ delivered events, ∃ holder, message ∈ dispatch.held events holder
  nowhere_else : ∀ message one other, message ∈ dispatch.held events one →
    message ∈ dispatch.held events other → other = one
  once : ∀ holder, (dispatch.held events holder).Nodup
  delivered : ∀ holder, ∀ message ∈ dispatch.held events holder, message ∈ delivered events
  inFlight : ∀ place offset, offset ∈ dispatch.watermark.inFlight place ↔
    ∃ holder message, holder.isOpen = true ∧ message ∈ dispatch.held events holder ∧
      position message = (place, offset)

theorem holdings_perm (dispatch : Dispatch) {events : List Event}
    (sturdy : crashed events = []) :
    (dispatch.holdings events).Perm (Holder.all.flatMap (dispatch.held events)) := by
  apply List.perm_iff_count.mpr
  intro message
  simp only [holdings, unclosed, unsettled, waiting, sturdy, Holder.all, held,
    List.flatMap_cons, List.flatMap_nil, List.count_append, List.count_nil]
  omega

theorem mem_unclosed {dispatch : Dispatch} {events : List Event} {message : Message}
    (sturdy : crashed events = []) :
    message ∈ dispatch.unclosed events ↔
      ∃ holder, holder.isOpen = true ∧ message ∈ dispatch.held events holder := by
  rw [unclosed, sturdy, List.append_nil]
  simp only [unsettled, waiting, List.mem_append]
  constructor
  · rintro ((((inHand | inIntake) | back) | works) | reported)
    · exact ⟨.hand, rfl, inHand⟩
    · exact ⟨.intake, rfl, inIntake⟩
    · exact ⟨.redelivery, rfl, back⟩
    · exact ⟨.worker, rfl, works⟩
    · exact ⟨.outcome, rfl, reported⟩
  · rintro ⟨holder, open_, member⟩
    cases holder with
    | hand => exact Or.inl (Or.inl (Or.inl (Or.inl member)))
    | intake => exact Or.inl (Or.inl (Or.inl (Or.inr member)))
    | redelivery => exact Or.inl (Or.inl (Or.inr member))
    | worker => exact Or.inl (Or.inr member)
    | outcome => exact Or.inr member
    | _ => cases open_

theorem Custody.conserved_of_sturdy {dispatch : Dispatch} {events : List Event}
    (custody : Custody dispatch events) (distinct : Distinct (delivered events))
    (sturdy : crashed events = []) : Conserved dispatch events := by
  have shared := custody.conserved.trans (holdings_perm dispatch sturdy)
  obtain ⟨eachNodup, apart⟩ := List.nodup_flatMap.mp (shared.nodup_iff.mp distinct.nodup)
  have symmetric : Std.Symm (Function.onFun List.Disjoint (dispatch.held events)) :=
    ⟨fun _ _ separate _ right left => separate left right⟩
  constructor
  · intro message member
    obtain ⟨holder, _, held⟩ := List.mem_flatMap.mp (shared.mem_iff.mp member)
    exact ⟨holder, held⟩
  · intro message one other withOne withOther
    by_contra differ
    have disjoint := apart.forall (Holder.mem_all other) (Holder.mem_all one) differ
    exact disjoint withOther withOne
  · intro holder
    exact eachNodup holder (Holder.mem_all holder)
  · intro holder message held
    apply shared.mem_iff.mpr
    exact List.mem_flatMap.mpr ⟨holder, Holder.mem_all holder, held⟩
  · intro place offset
    rw [custody.inFlight place offset]
    constructor
    · rintro ⟨message, open_, stands⟩
      obtain ⟨holder, isOpen, held⟩ := (mem_unclosed sturdy).mp open_
      exact ⟨holder, message, isOpen, held, stands⟩
    · rintro ⟨holder, message, isOpen, held, stands⟩
      exact ⟨message, (mem_unclosed sturdy).mpr ⟨holder, isOpen, held⟩, stands⟩

/-! ## Handing out again -/

/-- A message is handed out again only after an outcome that left it unresolved was taken,
and nothing was done with it since. -/
def RestartsUnresolved (events : List Event) : Prop :=
  ∀ early message late, events = early ++ .started message :: late →
    .started message ∈ early →
    ∃ first second, early = first ++ .redelivered message :: second ∧
      (∀ other ∈ second, other.subject? ≠ some message) ∧
      outcome? message first = some .unresolved

/-! ## The end -/

/-- Whether the latest outcome of a message settles it. -/
def isSettled (events : List Event) (message : Message) : Bool :=
  (outcome? message events).any Disposition.settles

/-- What is left when the loop has ended. -/
structure Returned (dispatch : Dispatch) (events : List Event) : Prop where
  nobody : dispatch.held events .worker = []
  drained : dispatch.held events .outcome = []
  finished : ∀ early message late, events = early ++ .started message :: late →
    ∃ disposition, .finished ⟨message, disposition⟩ ∈ late
  waiting : ∀ holder, holder.isWaiting = true → ∀ message ∈ dispatch.held events holder,
    message ∉ committed events

theorem crashed_not_mem {events : List Event} (sturdy : crashed events = [])
    (message : Message) : .crashed message ∉ events := by
  intro lost
  have member := mem_crashed.mpr lost
  rw [sturdy] at member
  cases member

/-- What a worker has not put down it still has. -/
theorem mem_busy_of_started {dispatch : Dispatch} {events : List Event} {message : Message}
    (custody : Custody dispatch events) (stages : Stages dispatch events)
    (sturdy : crashed events = [])
    (started : latest? message events = some (.started message)) :
    message ∈ dispatch.pool.busy := by
  have notSettled : ¬HasSettled events message := by
    rintro ⟨disposition, finished, _⟩
    rw [started] at finished
    cases finished
  have held := custody.conserved.mem_iff.mp (stages.known message _ started)
  simp only [holdings, unclosed, unsettled, sturdy, List.mem_append, List.append_nil] at held
  rcases held with ((((waits | works) | reported) | finished) | out) | accepted
  · rcases stages.waiting message waits with new | back
    · rw [started] at new
      cases new
    · rw [started] at back
      cases back
  · exact works
  · obtain ⟨outcome, member, about⟩ := List.mem_map.mp reported
    have finished := stages.outcomes outcome member
    rw [about, started] at finished
    cases finished
  · exact absurd (stages.finished message finished) notSettled
  · exact absurd (stages.uncommitted message out) notSettled
  · exact absurd (stages.accepted message accepted) notSettled

theorem isSettled_of_hasSettled {events : List Event} {message : Message}
    (settled : HasSettled events message) : isSettled events message = true := by
  obtain ⟨disposition, outcome, settles⟩ := outcome?_of_settled settled
  simp [isSettled, outcome, settles]

theorem isSettled_of_isFree {events : List Event} {message : Message} (lawful : Lawful events)
    (free : IsFree events message) : isSettled events message = false := by
  rcases free with new | back
  · simp [isSettled, outcome?_of_new new]
  · simp [isSettled, lawful.outcome?_of_redelivered back, Disposition.settles]

theorem Conserved.returned {dispatch : Dispatch} {events : List Event}
    (conserved : Conserved dispatch events) (custody : Custody dispatch events)
    (stages : Stages dispatch events) (lawful : Lawful events) (sturdy : crashed events = [])
    (nobody : dispatch.pool.busy = []) (drained : dispatch.pool.outcomes = []) :
    Returned dispatch events where
  nobody := nobody
  drained := by
    rw [held, drained]
    rfl
  finished := by
    intro early message late split_
    rw [split_] at lawful
    apply lawful.finished_of_started
    · intro lost
      apply crashed_not_mem sturdy message
      rw [split_]
      exact List.mem_append_right _ (List.mem_cons_of_mem _ lost)
    · intro started
      rw [← split_] at started
      have works := mem_busy_of_started custody stages sturdy started
      rw [nobody] at works
      cases works
  waiting := by
    intro holder isWaiting message held accepted
    have same := conserved.nowhere_else message holder .consumer held accepted
    rw [← same] at isWaiting
    cases isWaiting

/-- When nobody has an outcome to report, a message is closed if its latest outcome
settles it. -/
theorem isClosed_eq_isSettled {dispatch : Dispatch} {events : List Event} {message : Message}
    (custody : Custody dispatch events) (stages : Stages dispatch events)
    (lawful : Lawful events) (sturdy : crashed events = [])
    (nobody : dispatch.pool.busy = []) (drained : dispatch.pool.outcomes = [])
    (member : message ∈ delivered events) :
    dispatch.isClosed events message = isSettled events message := by
  have unclosed_ : dispatch.unclosed events = dispatch.waiting := by
    simp [unclosed, unsettled, sturdy, nobody, drained]
  by_cases waits : message ∈ dispatch.waiting
  · rw [isSettled_of_isFree lawful (stages.waiting message waits), isClosed, unclosed_]
    exact decide_eq_false fun closed => closed waits
  · have settled : HasSettled events message := by
      have held := custody.conserved.mem_iff.mp member
      simp only [holdings, unclosed_, List.mem_append] at held
      rcases held with ((waits_ | finished) | out) | accepted
      · exact absurd waits_ waits
      · exact stages.finished message finished
      · exact stages.uncommitted message out
      · exact stages.accepted message accepted
    rw [isSettled_of_hasSettled settled, isClosed, unclosed_]
    exact decide_eq_true waits

/-- Since the dispatcher stopped no commit was refused. -/
def DrainsFully (limits : Limits) (moves : List Move) : Prop :=
  ∃ early late middle before last after, moves = early ++ late ∧
    (initial limits).steps early = some (middle, before) ∧ middle.phase = .joining ∧
    middle.steps late = some (last, after) ∧ ∀ message, .commitFailed message ∉ after

theorem DrainsFully.uncommitted {limits : Limits} {moves : List Move} {dispatch : Dispatch}
    {events : List Event} {result : Except Error Unit} (drains : DrainsFully limits moves)
    (run : (initial limits).steps moves = some (dispatch, events))
    (ended : dispatch.phase = .ended result) : dispatch.uncommitted = [] := by
  obtain ⟨early, late, middle, before, last, after, split_, first, joining, rest, accepted⟩ :=
    drains
  rw [split_] at run
  obtain ⟨middle', before', after', first', rest', equal⟩ := steps_append run
  rw [first] at first'
  cases first'
  rw [rest] at rest'
  cases rest'
  have stopped : middle.Stopped := by
    constructor
    · rw [joining]
      rfl
    · simp [joining, Phase.isFinal]
  apply (stopped.steps rest accepted).committed
  rw [ended]
  rfl

/-- Where no worker breaks down and no partition delivers an offset twice, each delivered
message is with one holder at every moment, what is in flight is what nothing has settled,
and messages are handed out again only after they were left unresolved.  When the loop has
ended, every outcome was taken and nothing that waits is committed; if besides the offsets
rise and no commit was refused at the end, each partition is committed up to the first
message that is not settled. -/
theorem messages_conserved (limits : Limits) (moves : List Move) (dispatch : Dispatch)
    (events : List Event) (run : (initial limits).steps moves = some (dispatch, events))
    (distinct : Distinct (delivered events)) (sturdy : crashed events = []) :
    Conserved dispatch events ∧ RestartsUnresolved events ∧
      ∀ result, dispatch.phase = .ended result → Returned dispatch events ∧
        (DrainsFully limits moves → Ascending (delivered events) → ∀ place,
          inPlace place (committed events) =
            (inPlace place (delivered events)).takeWhile (isSettled events)) := by
  have reached := reached_of_steps run
  have custody := reached.custody distinct
  have stages := reached.stages distinct
  have lawful := reached.lawful distinct
  have conserved := custody.conserved_of_sturdy distinct sturdy
  refine ⟨conserved, ?_, ?_⟩
  · intro early message late split_ before
    rw [split_] at lawful
    exact lawful.restarted before
  · intro result ended
    have nobody := reached.sound.busy_of_ended ended
    have drained := reached.sound.outcomes_of_ended ended
    refine ⟨conserved.returned custody stages lawful sturdy nobody drained, ?_⟩
    intro drains ascending place
    have released := (reached.orderly ascending).released place
    rw [drains.uncommitted run ended, List.append_nil] at released
    rw [released]
    apply Ledger.takeWhile_congr
    intro message member
    exact isClosed_eq_isSettled custody stages lawful sturdy nobody drained
      (mem_inPlace.mp member).1

/-- One message completes and another one is left unresolved when the flag is raised. -/
theorem messages_conserved_stopped :
    let message (offset : Int) : Message := ⟨"stt.jobs", 0, offset, none, .empty, [], ""⟩
    let early : List Move :=
      [.subscribed (.ok ()), .worker 0 .look,
        .proceed, .proceed, .proceed, .proceed, .proceed, .polled (.ok (some (message 0))),
        .proceed, .worker 0 .take,
        .proceed, .proceed, .proceed, .proceed, .proceed, .polled (.ok (some (message 1))),
        .proceed, .worker 0 (.finish .completed), .worker 0 .look, .worker 0 .take,
        .raise, .proceed]
    let late : List Move :=
      [.worker 0 (.finish .unresolved), .worker 0 .look, .proceed, .proceed, .proceed,
        .proceed, .commit (.ok ()), .proceed, .closed (.ok ())]
    ∃ dispatch events, (initial {}).steps (early ++ late) = some (dispatch, events) ∧
      dispatch.held events .redelivery = [message 1] ∧
      dispatch.held events .consumer = [message 0] ∧
      Conserved dispatch events ∧ Returned dispatch events ∧
      inPlace ⟨"stt.jobs", 0⟩ (committed events) =
        (inPlace ⟨"stt.jobs", 0⟩ (delivered events)).takeWhile (isSettled events) := by
  intro message early late
  obtain ⟨dispatch, events, run, ended, ascending, sturdy, back, accepted⟩ :
      ∃ dispatch events, (initial {}).steps (early ++ late) = some (dispatch, events) ∧
        dispatch.phase = .ended (.ok ()) ∧ Ascending (delivered events) ∧
        crashed events = [] ∧ dispatch.held events .redelivery = [message 1] ∧
        dispatch.held events .consumer = [message 0] :=
    ⟨_, _, rfl, rfl, by decide, by decide, by decide, by decide⟩
  obtain ⟨middle, before, last, after, first, joining, rest, taken⟩ :
      ∃ middle before last after, (initial {}).steps early = some (middle, before) ∧
        middle.phase = .joining ∧ middle.steps late = some (last, after) ∧
        after =
          [.finished ⟨message 1, .unresolved⟩, .redelivered (message 1),
            .committed (message 0)] :=
    ⟨_, _, _, _, rfl, rfl, rfl, rfl⟩
  have drains : DrainsFully {} (early ++ late) := by
    refine ⟨early, late, middle, before, last, after, rfl, first, joining, rest, ?_⟩
    intro refused member
    simp [taken] at member
  obtain ⟨conserved, _, atEnd⟩ :=
    messages_conserved {} (early ++ late) dispatch events run ascending.distinct sturdy
  obtain ⟨returned, upTo⟩ := atEnd (.ok ()) ended
  exact ⟨dispatch, events, run, back, accepted, conserved, returned, upTo drains ascending _⟩

end Dispatch

end Scribe.Delivery
