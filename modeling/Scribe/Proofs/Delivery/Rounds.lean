import Scribe.Proofs.Delivery.Backlog
import Scribe.Proofs.Run

/-!
# Rounds of flow control

In each round the dispatcher looks at the intake once, and may then ask the consumer to stop
or to go on.  It decides by its own record of the consumer, which it changes only when the
consumer has obeyed.  So the record is never wrong: whatever was seen of the intake and
whichever calls have failed, it says whether the consumer is held back, and a call that failed
is made again as long as the intake looks the same.
-/

namespace Scribe.Delivery

open Scribe.Broker

/-- A round: whether the intake was seen full, and what the consumer was then asked to do and
what it answered, if it was asked. -/
structure Round where
  full : Bool
  call : Option (FlowAction × Except Error Unit)

namespace Round

/-- The action that the consumer carried out. -/
def obeyed? (round : Round) : Option FlowAction :=
  match round.call with
  | some (action, .ok _) => some action
  | _ => none

/-- Whether the consumer was asked in vain. -/
def failed (round : Round) : Bool :=
  match round.call with
  | some (_, .error _) => true
  | _ => false

/-- Whether the consumer is held back after a round.  A call that failed leaves it as it
was. -/
def holding (before : Bool) (round : Round) : Bool :=
  match round.obeyed? with
  | some .pause => true
  | some .resume => false
  | _ => before

end Round

/-- The action that brings a consumer to where a look at the queue wants it. -/
def FlowAction.toward (full : Bool) : FlowAction :=
  if full then .pause else .resume

/-- Whether the consumer is held back after some rounds. -/
def isHeld (rounds : List Round) : Bool :=
  rounds.foldl Round.holding false

/-- What the consumer has done in some rounds, in order. -/
def obeyed (rounds : List Round) : List FlowAction :=
  rounds.filterMap Round.obeyed?

theorem isHeld_append (rounds : List Round) (round : Round) :
    isHeld (rounds ++ [round]) = round.holding (isHeld rounds) := by
  rw [isHeld, List.foldl_append]
  rfl

theorem obeyed_append (rounds : List Round) (round : Round) :
    obeyed (rounds ++ [round]) = obeyed rounds ++ round.obeyed?.toList :=
  filterMap_snoc Round.obeyed? rounds round

/-- Rounds in which the consumer does nothing leave it as it was. -/
theorem isHeld_append_of_idle (early : List Round) {late : List Round}
    (idle : ∀ round ∈ late, round.obeyed? = none) : isHeld (early ++ late) = isHeld early := by
  induction late generalizing early with
  | nil => rw [List.append_nil]
  | cons round rest ih =>
      have first : isHeld (early ++ [round]) = isHeld early := by
        rw [isHeld_append, Round.holding, idle round List.mem_cons_self]
      rw [← List.singleton_append, ← List.append_assoc,
        ih _ fun other member => idle other (List.mem_cons_of_mem _ member), first]

/-! ## One round -/

namespace Dispatch

/-- The round that a move closes. -/
def round? (dispatch : Dispatch) (move : Move) : Option Round :=
  match dispatch.phase, move with
  | .regulating full, .proceed => some ⟨full, none⟩
  | .regulating full, .regulated answer =>
      some ⟨full, some (dispatch.flow.evaluate full, answer)⟩
  | _, _ => none

/-- The rounds of a dispatcher that makes some moves. -/
def rounds : Dispatch → List Move → List Round
  | _, [] => []
  | dispatch, move :: rest =>
      match dispatch.step move with
      | none => []
      | some (next, _) => (dispatch.round? move).toList ++ next.rounds rest

end Dispatch

/-- A dispatcher with a record of the consumer closes a round, whatever else it is about and
whatever it has seen of the intake, and has another record then. -/
def Regulates (before : Flow) (round : Round) (after : Flow) : Prop :=
  ∃ (dispatch next : Dispatch) (move : Move) (events : List Event),
    dispatch.flow = before ∧ dispatch.step move = some (next, events) ∧
      dispatch.round? move = some round ∧ next.flow = after

/-- Rounds one after another, which lead from one record to another. -/
abbrev Rounds (start : Flow) : List Round → Flow → Prop :=
  Run Regulates start

/-- The ways in which a round is closed: the consumer is where it should be and is not asked,
or it is asked and obeys, or it is asked in vain. -/
inductive Closes (before : Flow) : Round → Flow → Prop
  | held {full : Bool} (fits : before.paused = full) : Closes before ⟨full, none⟩ before
  | turned {full : Bool} (differs : before.paused ≠ full) :
      Closes before ⟨full, some (.toward full, .ok ())⟩ ⟨full⟩
  | failed {full : Bool} (differs : before.paused ≠ full) (error : Error) :
      Closes before ⟨full, some (.toward full, .error error)⟩ before

theorem Flow.evaluate_of_ne {flow : Flow} {full : Bool} (differs : flow.paused ≠ full) :
    flow.evaluate full = .toward full := by
  obtain ⟨paused⟩ := flow
  cases full <;> cases paused <;> first | rfl | exact absurd rfl differs

theorem Flow.applied_toward (flow : Flow) (full : Bool) :
    flow.applied (.toward full) = ⟨full⟩ := by
  cases full <;> rfl

theorem Regulates.closes {before after : Flow} {round : Round}
    (regulates : Regulates before round after) : Closes before round after := by
  obtain ⟨dispatch, next, move, events, rfl, possible, closed, rfl⟩ := regulates
  unfold Dispatch.round? at closed
  split at closed
  next full phase =>
    cases closed
    simp only [Dispatch.step, Dispatch.proceed, phase] at possible
    split at possible
    next holds =>
      cases possible
      exact .held (Flow.evaluate_eq_hold_iff.mp holds)
    next => cases possible
  next full answer phase =>
    cases closed
    simp only [Dispatch.step, phase] at possible
    split at possible
    next => cases possible
    next action asked =>
      have differs : dispatch.flow.paused ≠ full :=
        fun fits => asked (Flow.evaluate_eq_hold_iff.mpr fits)
      rw [Flow.evaluate_of_ne differs] at possible ⊢
      cases answer with
      | ok _ =>
          cases possible
          rw [Flow.applied_toward]
          exact .turned differs
      | error error =>
          cases possible
          exact .failed differs error
  next => cases closed

/-- A dispatcher that has just looked at the intake. -/
def lookedAt (flow : Flow) (full : Bool) : Dispatch :=
  { limits := {}, phase := .regulating full, flow, pool := { capacity := 1 } }

/-- Each of these ways is open to a dispatcher, whatever it has seen. -/
theorem Closes.regulates {before after : Flow} {round : Round}
    (closes : Closes before round after) : Regulates before round after := by
  obtain ⟨paused⟩ := before
  cases closes with
  | held fits =>
      subst fits
      cases paused <;> exact ⟨lookedAt _ _, _, .proceed, _, rfl, rfl, rfl, rfl⟩
  | @turned full differs =>
      obtain rfl : paused = !full := Bool.eq_not.mpr differs
      cases full <;> exact ⟨lookedAt _ _, _, .regulated (.ok ()), _, rfl, rfl, rfl, rfl⟩
  | @failed full differs error =>
      obtain rfl : paused = !full := Bool.eq_not.mpr differs
      cases full <;> exact ⟨lookedAt _ _, _, .regulated (.error error), _, rfl, rfl, rfl, rfl⟩

/-- Whatever is seen of the intake and whatever the consumer would answer, the round is
closed, and the consumer is told of the answer only if it is asked. -/
theorem exists_regulates (before : Flow) (full : Bool) (answer : Except Error Unit) :
    ∃ round after, Regulates before round after ∧ round.full = full ∧
      ∀ action told, round.call = some (action, told) → told = answer := by
  by_cases fits : before.paused = full
  · exact ⟨_, _, (Closes.held fits).regulates, rfl, fun _ _ asked => nomatch asked⟩
  · cases answer with
    | ok _ =>
        refine ⟨_, _, (Closes.turned fits).regulates, rfl, ?_⟩
        rintro _ _ ⟨⟩
        rfl
    | error error =>
        refine ⟨_, _, (Closes.failed fits error).regulates, rfl, ?_⟩
        rintro _ _ ⟨⟩
        rfl

/-! ## Rounds one after another -/

section

variable {flow : Flow} {rounds early middle late : List Round} {round : Round}

theorem Round.holding_toward (before full : Bool) :
    Round.holding before ⟨full, some (.toward full, .ok ())⟩ = full := by
  cases full <;> rfl

/-- The record says what has become of the consumer. -/
theorem Rounds.recorded (course : Rounds {} rounds flow) : flow.paused = isHeld rounds := by
  induction course with
  | none => rfl
  | @next _ before _ run round regulates same =>
      rw [isHeld_append, ← same]
      cases regulates.closes with
      | held fits => rfl
      | @turned full differs => exact (Round.holding_toward before.paused full).symm
      | failed differs error => rfl

/-- Each round is closed in one of the three ways by what has become of the consumer. -/
theorem Rounds.closes (course : Rounds {} rounds flow) (place : rounds = early ++ round :: late) :
    ∃ after, Closes ⟨isHeld early⟩ round after := by
  obtain ⟨before, after, earlier, regulates⟩ := course.split place
  have known : before = ⟨isHeld early⟩ := congrArg Flow.mk (Rounds.recorded earlier)
  rw [known] at regulates
  exact ⟨after, regulates.closes⟩

/-- Unless the consumer was asked in vain, it is held back just if the intake was full. -/
theorem Rounds.heeded (course : Rounds {} rounds flow) (place : rounds = early ++ round :: late)
    (fine : round.failed = false) : isHeld (early ++ [round]) = round.full := by
  obtain ⟨after, closes⟩ := course.closes place
  rw [isHeld_append]
  cases closes with
  | held fits => exact fits
  | @turned full differs => exact Round.holding_toward _ full
  | failed differs error => cases fine

/-- A consumer that is not where it should be is asked. -/
theorem Rounds.asks (course : Rounds {} rounds flow) (place : rounds = early ++ round :: late)
    (differs : isHeld early ≠ round.full) :
    ∃ answer, round.call = some (.toward round.full, answer) := by
  obtain ⟨after, closes⟩ := course.closes place
  cases closes with
  | held fits => exact absurd fits differs
  | turned _ => exact ⟨_, rfl⟩
  | failed _ error => exact ⟨_, rfl⟩

/-- A consumer is asked only if it is not where it should be. -/
theorem Rounds.of_asked (course : Rounds {} rounds flow)
    (place : rounds = early ++ round :: late) {action : FlowAction} {answer : Except Error Unit}
    (asked : round.call = some (action, answer)) :
    isHeld early ≠ round.full ∧ action = .toward round.full := by
  obtain ⟨after, closes⟩ := course.closes place
  cases closes with
  | held _ => cases asked
  | turned differs =>
      cases asked
      exact ⟨differs, rfl⟩
  | failed differs error =>
      cases asked
      exact ⟨differs, rfl⟩

/-- What failed is asked for again as long as the intake looks the same, until the consumer
obeys. -/
theorem Rounds.insisted (course : Rounds {} rounds flow) {refused next : Round}
    (place : rounds = early ++ refused :: (middle ++ next :: late))
    {action : FlowAction} {error : Error} (failed : refused.call = some (action, .error error))
    (persists : ∀ round ∈ middle ++ [next], round.full = refused.full)
    (vain : ∀ round ∈ middle, round.obeyed? = none) :
    ∃ answer, next.call = some (action, answer) := by
  obtain ⟨differs, rfl⟩ := course.of_asked place failed
  have idle : ∀ round ∈ refused :: middle, round.obeyed? = none := by
    intro round member
    rcases List.mem_cons.mp member with rfl | later
    · rw [Round.obeyed?, failed]
    · exact vain round later
  have same : next.full = refused.full :=
    persists next (List.mem_append_right _ List.mem_cons_self)
  have place : rounds = (early ++ refused :: middle) ++ next :: late := by
    rw [place, List.append_assoc, List.cons_append]
  rw [← same]
  apply course.asks place
  rw [isHeld_append_of_idle early idle, same]
  exact differs

/-- Each action of an even number, counted from zero, is to hold the consumer back, and each
other one is to let it go on. -/
def Alternates (actions : List FlowAction) : Prop :=
  ∀ (k : Nat) (action : FlowAction), actions[k]? = some action → action = .toward (k % 2 == 0)

theorem Alternates.append {actions : List FlowAction} (alternates : Alternates actions) :
    Alternates (actions ++ [.toward (actions.length % 2 == 0)]) := by
  intro k action found
  rcases Nat.lt_trichotomy k actions.length with inside | rfl | beyond
  · rw [List.getElem?_append_left inside] at found
    exact alternates k action found
  · rw [List.getElem?_append_right (Nat.le_refl _), Nat.sub_self] at found
    cases found
    rfl
  · rw [List.getElem?_eq_none (by rw [List.length_append]; exact beyond)] at found
    cases found

/-- What the consumer does alternates, and an odd number of actions leaves it held back. -/
theorem Rounds.alternates (course : Rounds {} rounds flow) :
    flow.paused = ((obeyed rounds).length % 2 == 1) ∧ Alternates (obeyed rounds) := by
  induction course with
  | none => exact ⟨rfl, fun _ _ found => nomatch found⟩
  | @next earlier _ _ run round regulates before =>
      obtain ⟨counted, alternates⟩ := before
      rw [obeyed_append]
      cases regulates.closes with
      | held fits =>
          rw [Round.obeyed?, Option.toList_none, List.append_nil]
          exact ⟨counted, alternates⟩
      | failed differs error =>
          rw [Round.obeyed?, Option.toList_none, List.append_nil]
          exact ⟨counted, alternates⟩
      | @turned full differs =>
          have other : full = ((obeyed earlier).length % 2 == 0) := by
            rw [Bool.eq_not.mpr differs.symm, counted]
            rcases Nat.mod_two_eq_zero_or_one (obeyed earlier).length with even | odd
            · rw [even]; rfl
            · rw [odd]; rfl
          refine ⟨?_, ?_⟩
          · rw [Round.obeyed?, Option.toList_some, List.length_append, List.length_singleton,
              other, Bool.eq_iff_iff, beq_iff_eq, beq_iff_eq]
            omega
          · rw [Round.obeyed?, Option.toList_some, other]
            exact alternates.append

end

/-! ## Rounds of a dispatcher -/

namespace Dispatch

/-- A move that closes no round leaves the record as it is. -/
theorem step_flow {dispatch next : Dispatch} {move : Move} {events : List Event}
    (possible : dispatch.step move = some (next, events)) (open_ : dispatch.round? move = none) :
    next.flow = dispatch.flow := by
  cases move with
  | worker index workerMove =>
      obtain ⟨⟨pool, poolEvents⟩, poolStep, equal⟩ := Option.map_eq_some_iff.mp possible
      cases equal
      rfl
  | regulated answer =>
      simp only [step] at possible
      split at possible
      next full phase =>
        simp only [round?, phase] at open_
        cases open_
      next => cases possible
  | commit answer =>
      simp only [step] at possible
      cases answer <;> (repeat' split at possible) <;> cases possible <;> rfl
  | polled answer =>
      simp only [step, receive] at possible
      (repeat' split at possible) <;> cases possible <;> rfl
  | proceed =>
      simp only [step, proceed, takeOutcome] at possible
      (repeat' split at possible) <;> cases possible <;> rfl
  | _ =>
      simp only [step] at possible
      (repeat' split at possible) <;> cases possible <;> rfl

/-- The rounds of a dispatcher come one after another. -/
theorem step_rounds {dispatch next : Dispatch} {move : Move} {events : List Event}
    (possible : dispatch.step move = some (next, events)) {start : Flow} {earlier : List Round}
    (before : Rounds start earlier dispatch.flow) :
    Rounds start (earlier ++ (dispatch.round? move).toList) next.flow := by
  cases closed : dispatch.round? move with
  | none =>
      rw [Option.toList_none, List.append_nil, step_flow possible closed]
      exact before
  | some round => exact before.next round ⟨dispatch, next, move, events, rfl, possible, closed, rfl⟩

theorem rounds_of_steps {dispatch last : Dispatch} {moves : List Move} {events : List Event}
    (run : dispatch.steps moves = some (last, events)) {start : Flow} {earlier : List Round}
    (before : Rounds start earlier dispatch.flow) :
    Rounds start (earlier ++ dispatch.rounds moves) last.flow := by
  induction moves generalizing dispatch events earlier with
  | nil =>
      cases run
      rw [rounds, List.append_nil]
      exact before
  | cons move rest ih =>
      obtain ⟨next, now, after, possible, onward, rfl⟩ := steps_cons run
      simp only [rounds, possible]
      rw [← List.append_assoc]
      exact ih onward (step_rounds possible before)

end Dispatch

/-- A round in which the intake looked so, and in which the consumer, if it was asked, gave that
answer. -/
def Round.Shows (round : Round) (look : Bool × Except Error Unit) : Prop :=
  round.full = look.1 ∧ ∀ action answer, round.call = some (action, answer) → answer = look.2

/-- Rounds follow one another whatever the intake looks like in them. -/
theorem exists_rounds (start : Flow) (looks : List (Bool × Except Error Unit)) :
    ∃ rounds flow, Rounds start rounds flow ∧ List.Forall₂ Round.Shows rounds looks := by
  induction looks using List.reverseRecOn with
  | nil => exact ⟨[], start, .none, .nil⟩
  | append_singleton earlier look ih =>
      obtain ⟨rounds, flow, course, shown⟩ := ih
      obtain ⟨round, after, regulates, seen⟩ := exists_regulates flow look.1 look.2
      exact ⟨rounds ++ [round], after, course.next round regulates,
        List.rel_append shown (.cons seen .nil)⟩

/-- What can be relied on in the record that flow control keeps of the consumer. -/
structure Tracked (rounds : List Round) (flow : Flow) : Prop where
  /-- It says whether the consumer is held back. -/
  recorded : flow.paused = isHeld rounds
  /-- After a round in which the consumer was not asked in vain, it is held back just if the
  intake was seen full. -/
  heeded : ∀ early round late, rounds = early ++ round :: late → round.failed = false →
    isHeld (early ++ [round]) = round.full
  /-- What the consumer was asked in vain it is asked again in each round that sees the intake
  as before, until it obeys. -/
  insisted : ∀ early refused middle next late action error,
    rounds = early ++ refused :: (middle ++ next :: late) →
    refused.call = some (action, .error error) →
    (∀ round ∈ middle ++ [next], round.full = refused.full) →
    (∀ round ∈ middle, round.obeyed? = none) →
    ∃ answer, next.call = some (action, answer)
  /-- The consumer is held back and let go on in turns, held back first. -/
  alternates : Alternates (obeyed rounds)

open Dispatch

/-- The record of the consumer is right after every round.  The intake may look in the rounds as
it likes, and any of the calls may fail; what a dispatcher does over all its moves are such
rounds. -/
theorem flow_tracked :
    (∀ looks : List (Bool × Except Error Unit), ∃ rounds flow,
      Rounds {} rounds flow ∧ List.Forall₂ Round.Shows rounds looks) ∧
    (∀ rounds flow, Rounds {} rounds flow → Tracked rounds flow) ∧
    ∀ limits moves dispatch events,
      (initial limits).steps moves = some (dispatch, events) →
      Rounds {} ((initial limits).rounds moves) dispatch.flow := by
  refine ⟨exists_rounds {}, ?_, ?_⟩
  · intro rounds flow course
    constructor
    · exact course.recorded
    · intro early round late place fine
      exact course.heeded place fine
    · intro early refused middle next late action error place failed persists vain
      exact course.insisted place failed persists vain
    · exact course.alternates.2
  · intro limits moves dispatch events run
    exact rounds_of_steps run .none

/-- A full intake is seen in three rounds: the consumer cannot be held back in the first one, is
in the second one, and is left alone in the third one.  When there is room again it goes on. -/
theorem flow_tracked_refused :
    let message (offset : Int) : Message := ⟨"stt.jobs", 0, offset, none, .empty, [], ""⟩
    let round (rest : List Move) : List Move := [.proceed, .proceed, .proceed, .proceed] ++ rest
    let moves : List Move :=
      [.subscribed (.ok ())] ++ round [.proceed, .polled (.ok (some (message 0))), .proceed] ++
        round [.regulated (.error .closed), .polled (.ok none)] ++
        round [.regulated (.ok ()), .polled (.ok none)] ++
        round [.proceed, .polled (.ok none), .worker 0 .look, .worker 0 .take] ++
        round [.regulated (.ok ())]
    ∃ dispatch events, (initial { capacity := 1 }).steps moves = some (dispatch, events) ∧
      (initial { capacity := 1 }).rounds moves =
        [⟨false, none⟩, ⟨true, some (.pause, .error .closed)⟩, ⟨true, some (.pause, .ok ())⟩,
          ⟨true, none⟩, ⟨false, some (.resume, .ok ())⟩] ∧
      Tracked ((initial { capacity := 1 }).rounds moves) dispatch.flow := by
  intro message round moves
  refine ⟨_, _, rfl, rfl, ?_⟩
  exact flow_tracked.2.1 _ _ (flow_tracked.2.2 { capacity := 1 } moves _ _ rfl)

end Scribe.Delivery
