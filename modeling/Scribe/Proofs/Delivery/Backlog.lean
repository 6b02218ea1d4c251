import Scribe.Proofs.Delivery.Moves
import Scribe.Proofs.Delivery.Passage

/-!
# The backlog

A delivered message is in the backlog until an outcome settles it: it waits for a worker,
is being handled, was lost with its worker, or came back unresolved.  An unresolved message
is queued without a limit, and so is its outcome.  Still the backlog is bounded, as long as
the consumer can be held back and delivers nothing then.

What waits in the intake or is with a worker is bounded by the room for it.  A message is
polled only in a round that found room in the intake, and in which no outcome brought a
message back.  After its outcomes were taken, such a round had nothing in the backlog but
what has room, so that a poll leads to one message more than there is room for.
-/

namespace Scribe.Delivery

open Scribe.Broker

/-! ## Settled messages and held consumers -/

namespace Event

/-- The message that an event settles. -/
def settled? : Event → Option Message
  | .finished outcome => if outcome.commits then some outcome.message else none
  | _ => none

/-- What an event tells of the consumer being held back. -/
def paused? : Event → Option Bool
  | .flowChanged paused => some paused
  | _ => none

end Event

namespace History

/-- The messages that an outcome has settled, in the order of their outcomes. -/
def settled (events : List Event) : List Message := events.filterMap Event.settled?

/-- Whether the consumer is held back after a history. -/
def isPaused (events : List Event) : Bool :=
  (events.filterMap Event.paused?).getLast?.getD false

/-- Nothing is delivered while the consumer is held back. -/
def HeedsPauses (events : List Event) : Prop :=
  ∀ early message late, events = early ++ .received message :: late → isPaused early = false

@[simp] theorem settled_append (early late : List Event) :
    settled (early ++ late) = settled early ++ settled late :=
  List.filterMap_append

theorem settled_of_silent {events : List Event} (silent : ∀ event ∈ events, event.IsSilent) :
    settled events = [] := by
  apply List.filterMap_eq_nil_iff.mpr
  intro event member
  have noSubject := (silent event member).2.1
  cases event with
  | finished outcome => cases noSubject
  | _ => rfl

theorem isPaused_append_of_none {early late : List Event}
    (none : late.filterMap Event.paused? = []) : isPaused (early ++ late) = isPaused early := by
  simp [isPaused, List.filterMap_append, none]

theorem isPaused_append_of_some {early late : List Event} {paused : Bool}
    (some : late.filterMap Event.paused? = [paused]) : isPaused (early ++ late) = paused := by
  simp [isPaused, List.filterMap_append, some]

theorem HeedsPauses.left {early late : List Event} (heeds : HeedsPauses (early ++ late)) :
    HeedsPauses early := by
  intro front message back split_
  apply heeds front message (back ++ late)
  rw [split_]
  simp

/-- A consumer that is never held back may deliver at any time. -/
theorem heedsPauses_of_unpaused {events : List Event}
    (unpaused : events.filterMap Event.paused? = []) : HeedsPauses events := by
  rintro early message late rfl
  rw [List.filterMap_append, List.append_eq_nil_iff] at unpaused
  rw [isPaused, unpaused.1]
  rfl

theorem heedsPauses_iff {events : List Event} :
    HeedsPauses events ↔ ∀ index : Fin events.length,
      events[index].delivered?.isSome = true → isPaused (events.take index) = false := by
  constructor
  · intro heeds index brings
    cases event : events[index] with
    | received message =>
        apply heeds (events.take index) message (events.drop (index + 1))
        rw [← event, Fin.getElem_fin, ← List.drop_eq_getElem_cons index.isLt,
          List.take_append_drop]
    | _ =>
        rw [event] at brings
        cases brings
  · rintro each early message late rfl
    have inBounds : early.length < (early ++ .received message :: late).length := by simp
    have here := each ⟨early.length, inBounds⟩
    simp only [Fin.getElem_fin, List.getElem_append_right (Nat.le_refl _), Nat.sub_self,
      List.getElem_cons_zero, Event.delivered?, Option.isSome_some, forall_const,
      List.take_left'] at here
    exact here

instance decidableHeedsPauses (events : List Event) : Decidable (HeedsPauses events) :=
  decidable_of_iff _ heedsPauses_iff.symm

end History

open History

/-! ## The crew -/

namespace Pool

/-- How many workers have not left. -/
def crew (pool : Pool) : Nat :=
  pool.workers.countP (· != .gone)

/-- Each message in work is with another worker. -/
theorem busy_length_le (pool : Pool) : pool.busy.length ≤ pool.crew := by
  rw [busy, List.length_filterMap_eq_countP]
  apply List.countP_mono_left
  intro worker _ works
  cases worker with
  | busy message => rfl
  | _ => cases works

/-- A worker that stays leaves the crew as it was, and one that leaves takes one off. -/
theorem crew_setWorker {pool : Pool} {index : Nat} {old : Worker} (new : Worker)
    (found : pool.workers[index]? = some old) (present : old ≠ .gone) :
    (pool.setWorker index new).crew + (if new = .gone then 1 else 0) = pool.crew := by
  obtain ⟨inBounds, isOld⟩ := List.getElem?_eq_some_iff.mp found
  have counted := List.boole_getElem_le_countP (p := (· != Worker.gone)) inBounds
  have changed : (pool.setWorker index new).crew = _ := List.countP_set inBounds
  rw [isOld] at counted changed
  simp only [bne_iff_ne, ne_eq, present, not_false_eq_true, if_true] at counted changed
  rw [changed, crew]
  by_cases leaves : new = .gone
  · simp only [leaves, not_true_eq_false, if_false, if_true]
    omega
  · simp only [leaves, not_false_eq_true, if_true, if_false]
    omega

/-- A move of a worker: it turns from one thing to another, with no more in the intake than
before, and if a message is lost the worker is gone. -/
structure Turns (pool next : Pool) (index : Nat) (events : List Event) (old new : Worker) :
    Prop where
  found : pool.workers[index]? = some old
  present : old ≠ .gone
  workers : next.workers = pool.workers.set index new
  intake : next.intake.length ≤ pool.intake.length
  lost : (crashed events).length ≤ if new = .gone then 1 else 0
  flow : events.filterMap Event.paused? = []

theorem step_turns {pool next : Pool} {index : Nat} {move : WorkerMove} {events : List Event}
    (possible : pool.step index move = some (next, events)) :
    ∃ old new, Turns pool next index events old new := by
  unfold step at possible
  split at possible
  next found =>
    cases possible
    exact ⟨_, _, found, by simp, rfl, Nat.le_refl _, Nat.zero_le _, rfl⟩
  next found =>
    split at possible
    · cases possible
    next message rest intake =>
      cases possible
      have fewer : rest.length ≤ pool.intake.length := by
        rw [intake]
        exact Nat.le_succ _
      exact ⟨_, _, found, by simp, rfl, fewer, Nat.zero_le _, rfl⟩
  next found =>
    cases possible
    exact ⟨_, _, found, by simp, rfl, Nat.le_refl _, Nat.zero_le _, rfl⟩
  next found =>
    split at possible
    · cases possible
      exact ⟨_, _, found, by simp, rfl, Nat.le_refl _, Nat.zero_le _, rfl⟩
    · cases possible
  next message disposition found =>
    dsimp only at possible
    split at possible
    · cases possible
      exact ⟨_, _, found, by simp, rfl, Nat.le_refl _, Nat.zero_le _, rfl⟩
    · cases possible
      exact ⟨_, _, found, by simp, rfl, Nat.le_refl _, Nat.zero_le _, rfl⟩
  next message found =>
    cases possible
    exact ⟨_, _, found, by simp, rfl, Nat.le_refl _, Nat.le_refl 1, rfl⟩
  next => cases possible

/-- A worker that breaks down leaves the crew. -/
theorem step_crew {pool next : Pool} {index : Nat} {move : WorkerMove} {events : List Event}
    (possible : pool.step index move = some (next, events)) :
    next.crew + (crashed events).length ≤ pool.crew := by
  obtain ⟨old, new, turns⟩ := step_turns possible
  have counted := crew_setWorker new turns.found turns.present
  have same : next.crew = (pool.setWorker index new).crew := by
    rw [crew, turns.workers]
    rfl
  have lost := turns.lost
  omega

/-- Workers only take messages out of the intake. -/
theorem step_room {pool next : Pool} {index : Nat} {move : WorkerMove} {events : List Event}
    (possible : pool.step index move = some (next, events)) :
    next.intake.length ≤ pool.intake.length ∧ next.workers.length = pool.workers.length := by
  obtain ⟨old, new, turns⟩ := step_turns possible
  refine ⟨turns.intake, ?_⟩
  rw [turns.workers, List.length_set]

theorem step_paused {pool next : Pool} {index : Nat} {move : WorkerMove} {events : List Event}
    (possible : pool.step index move = some (next, events)) :
    events.filterMap Event.paused? = [] := by
  obtain ⟨old, new, turns⟩ := step_turns possible
  exact turns.flow

end Pool

namespace Flow

theorem evaluate_eq_hold_iff {flow : Flow} {full : Bool} :
    flow.evaluate full = .hold ↔ flow.paused = full := by
  obtain ⟨paused⟩ := flow
  cases full <;> cases paused <;> decide

/-- After the action that a look at the queue asks for the consumer is held back exactly if
the queue was full. -/
theorem applied_paused (flow : Flow) (full : Bool) :
    (flow.applied (flow.evaluate full)).paused = full := by
  obtain ⟨paused⟩ := flow
  cases full <;> cases paused <;> rfl

end Flow

namespace Dispatch

/-- How many messages have room: in the intake, and with the workers. -/
def room (limits : Limits) : Nat :=
  max limits.capacity 1 + max limits.concurrency 1

/-- There are never more messages in the intake nor more workers than the limits allow, and
a worker that broke down is missing among them. -/
structure Staffed (limits : Limits) (dispatch : Dispatch) (events : List Event) : Prop where
  given : dispatch.limits = limits
  capacity : dispatch.pool.capacity = max limits.capacity 1
  intake : dispatch.pool.intake.length ≤ max limits.capacity 1
  workers : dispatch.pool.workers.length ≤ max limits.concurrency 1
  crew : dispatch.pool.crew + (crashed events).length ≤ dispatch.pool.workers.length

theorem staffed_initial (limits : Limits) : Staffed limits (initial limits) [] where
  given := rfl
  capacity := rfl
  intake := Nat.zero_le _
  workers := Nat.zero_le _
  crew := Nat.le_refl _

/-- A step that leaves the workers alone and does not fill the intake beyond its limit. -/
theorem Staffed.filled {limits : Limits} {before after : Dispatch} {events later : List Event}
    (staffed : Staffed limits before events) (given : after.limits = before.limits)
    (capacity : after.pool.capacity = before.pool.capacity)
    (workers : after.pool.workers = before.pool.workers) (sturdy : crashed later = [])
    (intake : after.pool.intake.length ≤ max limits.capacity 1) :
    Staffed limits after (events ++ later) where
  given := given.trans staffed.given
  capacity := capacity.trans staffed.capacity
  intake := intake
  workers := by
    rw [workers]
    exact staffed.workers
  crew := by
    rw [crashed_append, sturdy, List.append_nil, Pool.crew, workers]
    exact staffed.crew

/-- A step that leaves the intake and the workers alone. -/
theorem Staffed.same {limits : Limits} {before after : Dispatch} {events later : List Event}
    (staffed : Staffed limits before events) (given : after.limits = before.limits)
    (capacity : after.pool.capacity = before.pool.capacity)
    (intake : after.pool.intake = before.pool.intake)
    (workers : after.pool.workers = before.pool.workers) (sturdy : crashed later = []) :
    Staffed limits after (events ++ later) := by
  apply staffed.filled given capacity workers sturdy
  rw [intake]
  exact staffed.intake

theorem Staffed.proceed {limits : Limits} {dispatch next : Dispatch} {events later : List Event}
    (staffed : Staffed limits dispatch events)
    (possible : dispatch.proceed = some (next, later)) :
    Staffed limits next (events ++ later) := by
  unfold Dispatch.proceed at possible
  cases phase : dispatch.phase with
  | offering message =>
      simp only [phase] at possible
      split at possible
      · cases possible
        exact staffed.same rfl rfl rfl rfl rfl
      next present =>
        split at possible
        · cases possible
        next free =>
          cases possible
          refine staffed.filled rfl rfl rfl rfl ?_
          have depth : dispatch.pool.depth = dispatch.pool.intake.length := if_neg present
          simp only [Pool.isFull, depth, staffed.capacity, decide_eq_true_eq] at free
          simp only [List.length_append, List.length_singleton]
          omega
  | draining last =>
      simp only [phase] at possible
      split at possible
      · cases possible
        exact staffed.same rfl rfl rfl rfl rfl
      · simp only [takeOutcome] at possible
        split at possible <;> cases possible <;> exact staffed.same rfl rfl rfl rfl rfl
  | _ =>
      simp only [phase] at possible
      (repeat' split at possible) <;> cases possible <;> exact staffed.same rfl rfl rfl rfl rfl

theorem Staffed.step {limits : Limits} {dispatch next : Dispatch} {move : Move}
    {events later : List Event} (staffed : Staffed limits dispatch events)
    (sound : dispatch.Sound) (possible : dispatch.step move = some (next, later)) :
    Staffed limits next (events ++ later) := by
  cases move with
  | raise =>
      cases possible
      exact staffed.same rfl rfl rfl rfl rfl
  | worker index workerMove =>
      obtain ⟨⟨pool, poolEvents⟩, poolStep, equal⟩ := Option.map_eq_some_iff.mp possible
      cases equal
      obtain ⟨shorter, workers⟩ := Pool.step_room poolStep
      have crew := Pool.step_crew poolStep
      have before := staffed.crew
      constructor
      · exact staffed.given
      · exact (Pool.step_frame poolStep).2.2.2.trans staffed.capacity
      · exact shorter.trans staffed.intake
      · exact workers.trans_le staffed.workers
      · simp only [crashed_append, List.length_append, workers]
        omega
  | proceed => exact staffed.proceed possible
  | subscribed answer =>
      simp only [Dispatch.step] at possible
      split at possible
      next phase =>
        cases possible
        obtain ⟨intake, workers, _⟩ := sound.idle phase
        have before := staffed.crew
        simp only [workers, List.length_nil, Nat.le_zero_eq, Nat.add_eq_zero_iff] at before
        constructor
        · exact staffed.given
        · exact staffed.capacity
        · exact Nat.zero_le _
        · simp [Pool.spawn, staffed.given]
        · simp [Pool.spawn, Pool.crew, List.countP_replicate, before.2]
      · cases possible
        exact staffed.same rfl rfl rfl rfl rfl
      · cases possible
  | polled answer =>
      simp only [Dispatch.step, receive] at possible
      (repeat' split at possible) <;> cases possible <;> exact staffed.same rfl rfl rfl rfl rfl
  | commit answer =>
      simp only [Dispatch.step] at possible
      cases answer <;> (repeat' split at possible) <;> cases possible <;>
        exact staffed.same rfl rfl rfl rfl rfl
  | regulated answer =>
      simp only [Dispatch.step] at possible
      cases answer <;> (repeat' split at possible) <;> cases possible <;>
        exact staffed.same rfl rfl rfl rfl rfl
  | interrupt =>
      simp only [Dispatch.step] at possible
      (repeat' split at possible) <;> cases possible
      exact staffed.same rfl rfl rfl rfl rfl
  | closed answer =>
      simp only [Dispatch.step] at possible
      split at possible <;> cases possible
      exact staffed.same rfl rfl rfl rfl rfl

/-! ## The flow -/

/-- The dispatcher knows whether the consumer is held back, and polls it or not as it has
just seen the intake. -/
structure Regulated (dispatch : Dispatch) (events : List Event) : Prop where
  known : dispatch.flow.paused = isPaused events
  heeded : ∀ full, dispatch.phase = .choosing full → dispatch.flow.paused = full

theorem regulated_initial (limits : Limits) : Regulated (initial limits) [] where
  known := rfl
  heeded := by
    intro full choosing
    cases choosing

/-- A step that does nothing to the consumer and does not choose. -/
theorem Regulated.same {before after : Dispatch} {events later : List Event}
    (regulated : Regulated before events) (flow : after.flow = before.flow)
    (untold : later.filterMap Event.paused? = [])
    (phase : ∀ full, after.phase = .choosing full → before.phase = .choosing full) :
    Regulated after (events ++ later) where
  known := by
    rw [flow, isPaused_append_of_none untold]
    exact regulated.known
  heeded := by
    intro full choosing
    rw [flow]
    exact regulated.heeded full (phase full choosing)

theorem Regulated.proceed {dispatch next : Dispatch} {events later : List Event}
    (regulated : Regulated dispatch events)
    (possible : dispatch.proceed = some (next, later)) : Regulated next (events ++ later) := by
  unfold Dispatch.proceed at possible
  cases phase : dispatch.phase with
  | regulating full =>
      simp only [phase] at possible
      split at possible
      next holds =>
        cases possible
        constructor
        · exact regulated.known.trans (isPaused_append_of_none rfl).symm
        · intro seen choosing
          cases choosing
          exact Flow.evaluate_eq_hold_iff.mp holds
      next => cases possible
  | draining last =>
      simp only [phase] at possible
      split at possible
      · cases possible
        exact regulated.same rfl rfl (by simp)
      · simp only [takeOutcome] at possible
        split at possible <;> cases possible <;> exact regulated.same rfl rfl (by simp [phase])
  | committing last =>
      simp only [phase] at possible
      split at possible <;> cases possible
      exact regulated.same rfl rfl (by cases last <;> simp [afterCommit])
  | _ =>
      simp only [phase] at possible
      (repeat' split at possible) <;> cases possible <;>
        exact regulated.same rfl rfl (by simp [stop])

theorem Regulated.step {dispatch next : Dispatch} {move : Move} {events later : List Event}
    (regulated : Regulated dispatch events)
    (possible : dispatch.step move = some (next, later))
    (obeyed : ∀ error, move ≠ .regulated (.error error)) :
    Regulated next (events ++ later) := by
  cases move with
  | raise =>
      cases possible
      exact regulated.same rfl rfl (fun _ choosing => choosing)
  | worker index workerMove =>
      obtain ⟨⟨pool, poolEvents⟩, poolStep, equal⟩ := Option.map_eq_some_iff.mp possible
      cases equal
      exact regulated.same rfl (Pool.step_paused poolStep) (fun _ choosing => choosing)
  | proceed => exact regulated.proceed possible
  | regulated answer =>
      cases answer with
      | error error => exact absurd rfl (obeyed error)
      | ok _ =>
          simp only [Dispatch.step] at possible
          split at possible
          next full phase =>
            split at possible
            next => cases possible
            next action asked =>
              cases possible
              constructor
              · exact (isPaused_append_of_some rfl).symm
              · intro seen choosing
                cases choosing
                exact Flow.applied_paused dispatch.flow full
          next => cases possible
  | polled answer =>
      simp only [Dispatch.step, receive] at possible
      (repeat' split at possible) <;> cases possible <;> exact regulated.same rfl rfl (by simp)
  | commit answer =>
      simp only [Dispatch.step] at possible
      split at possible
      next last message rest phase uncommitted =>
        cases answer with
        | ok _ =>
            cases possible
            exact regulated.same rfl rfl (fun _ choosing => choosing)
        | error _ =>
            cases possible
            exact regulated.same rfl rfl (by cases last <;> simp [afterCommit])
      next => cases possible
  | subscribed answer =>
      simp only [Dispatch.step] at possible
      (repeat' split at possible) <;> cases possible <;> exact regulated.same rfl rfl (by simp)
  | interrupt =>
      simp only [Dispatch.step] at possible
      (repeat' split at possible) <;> cases possible
      exact regulated.same rfl rfl (by simp [stop])
  | closed answer =>
      simp only [Dispatch.step] at possible
      split at possible <;> cases possible
      exact regulated.same rfl rfl (by simp)

/-! ## What is in the backlog -/

/-- The messages whose outcome waits to be taken and does not settle them. -/
def returning (dispatch : Dispatch) : List Message :=
  (dispatch.pool.outcomes.filter fun outcome => !outcome.commits).map Outcome.message

/-- The delivered messages that no outcome has settled. -/
def backlog (dispatch : Dispatch) (events : List Event) : List Message :=
  dispatch.waiting ++ dispatch.pool.busy ++ dispatch.returning ++ crashed events

/-- What is delivered enters the backlog, and what is settled leaves it. -/
theorem Passes.balance {before after : Dispatch} {later : List Event}
    (passes : Passes before after later) (events : List Event) :
    (after.backlog (events ++ later) ++ settled later).Perm
      (before.backlog events ++ delivered later) := by
  apply List.perm_iff_count.mpr
  intro other
  cases passes with
  | quiet silent waiting busy outcomes watermark uncommitted =>
      have waitingCount := waiting.count_eq other
      have busyCount := busy.count_eq other
      rw [settled_of_silent silent, delivered_of_silent silent]
      simp only [backlog, returning, outcomes, crashed_append, crashed_of_silent silent,
        List.append_nil, List.count_append, waitingCount, busyCount]
  | deliver message waiting busy outcomes watermark uncommitted =>
      have waitingCount := waiting.count_eq other
      simp only [backlog, returning, busy, outcomes, crashed_append, List.count_append,
        waitingCount]
      simp only [crashed, settled, delivered, List.filterMap_cons, List.filterMap_nil,
        Event.crashed?, Event.settled?, Event.delivered?, List.count_cons, List.count_nil]
      omega
  | start message waiting busy outcomes watermark uncommitted =>
      have waitingCount := waiting.count_eq other
      have busyCount := busy.count_eq other
      simp only [backlog, returning, outcomes, crashed_append, List.count_append,
        List.count_cons] at waitingCount busyCount ⊢
      simp only [crashed, settled, delivered, List.filterMap_cons, List.filterMap_nil,
        Event.crashed?, Event.settled?, Event.delivered?, List.count_nil]
      omega
  | finish outcome waiting busy outcomes watermark uncommitted =>
      have busyCount := busy.count_eq other
      simp only [backlog, returning, waiting, outcomes, crashed_append, List.count_append,
        List.count_cons, List.filter_append, List.map_append] at busyCount ⊢
      cases settles : outcome.commits <;>
        simp only [crashed, settled, delivered, List.filterMap_cons, List.filterMap_nil,
          Event.crashed?, Event.settled?, Event.delivered?, settles, List.filter_cons,
          List.filter_nil, Bool.not_true, Bool.not_false, Bool.false_eq_true, if_true, if_false,
          List.map_cons, List.map_nil, List.count_cons, List.count_nil] <;>
        omega
  | crash message waiting busy outcomes watermark uncommitted =>
      have busyCount := busy.count_eq other
      simp only [backlog, returning, waiting, outcomes, crashed_append, List.count_append,
        List.count_cons] at busyCount ⊢
      simp only [crashed, settled, delivered, List.filterMap_cons, List.filterMap_nil,
        Event.crashed?, Event.settled?, Event.delivered?, List.count_cons, List.count_nil]
      omega
  | redeliver outcome unsettled waiting busy outcomes watermark uncommitted =>
      have waitingCount := waiting.count_eq other
      simp only [backlog, returning, busy, outcomes, crashed_append, unsettled, List.filter_cons,
        Bool.not_false, if_true, List.map_cons, List.count_append,
        List.count_cons] at waitingCount ⊢
      simp only [crashed, settled, delivered, List.filterMap_cons, List.filterMap_nil,
        Event.crashed?, Event.settled?, Event.delivered?, List.count_nil]
      omega
  | settle outcome settles waiting busy outcomes watermark uncommitted =>
      simp [backlog, returning, waiting, busy, outcomes, settles, settled]
  | commit message waiting busy outcomes watermark uncommitted =>
      simp [backlog, returning, waiting, busy, outcomes, settled, delivered, crashed,
        List.filterMap_cons, Event.crashed?, Event.settled?, Event.delivered?]
  | refuse message waiting busy outcomes watermark uncommitted first =>
      simp [backlog, returning, waiting, busy, outcomes, settled, delivered, crashed,
        List.filterMap_cons, Event.crashed?, Event.settled?, Event.delivered?]

/-- The backlog is what was delivered and is not settled. -/
theorem Reached.balance {limits : Limits} {dispatch : Dispatch} {events : List Event}
    (reached : Reached limits dispatch events) :
    (dispatch.backlog events ++ settled events).Perm (delivered events) := by
  induction reached with
  | start => exact List.Perm.refl _
  | @step before after move events later reached possible ih =>
      have balance := (step_passes reached.sound possible).balance events
      apply List.perm_iff_count.mpr
      intro message
      have beforeCount := ih.count_eq message
      have stepCount := balance.count_eq message
      simp only [settled_append, delivered_append, List.count_append]
        at beforeCount stepCount ⊢
      omega

/-! ## Polls and the backlog -/

/-- Only a poll delivers a message: in a round that saw the intake full, or in which no
message waits for its redelivery. -/
theorem step_delivered {dispatch next : Dispatch} {move : Move} {events : List Event}
    (possible : dispatch.step move = some (next, events)) :
    delivered events = [] ∨ ∃ message full, events = [.polled, .received message] ∧
      dispatch.phase = .choosing full ∧ (full = false → dispatch.redelivery = []) ∧
      next.phase = .offering message := by
  cases plain : isPlain move with
  | true => exact Or.inl (step_plain plain possible).1
  | false =>
      cases move with
      | worker index workerMove =>
          obtain ⟨⟨pool, poolEvents⟩, poolStep, equal⟩ := Option.map_eq_some_iff.mp possible
          cases equal
          exact Or.inl (Pool.step_events poolStep).1
      | commit answer =>
          cases answer with
          | ok _ =>
              obtain ⟨message, rfl⟩ := step_commit_events possible
              exact Or.inl rfl
          | error _ => cases plain
      | polled answer =>
          simp only [step] at possible
          split at possible
          next full phase =>
            split at possible
            · cases possible
            next empty =>
              cases answer with
              | error _ => cases plain
              | ok found =>
                  cases found with
                  | none => cases plain
                  | some message =>
                      cases possible
                      refine Or.inr ⟨message, full, rfl, phase, ?_, rfl⟩
                      intro free
                      by_contra waits
                      exact empty ⟨free, waits⟩
          next => cases possible
      | _ => cases plain

end Dispatch

/-- Whether the dispatcher has taken the outcomes of a round, and polls in it, if at all,
later. -/
def Phase.isFresh : Phase → Bool
  | .committing last => !last
  | .measuring => true
  | .regulating _ => true
  | .choosing _ => true
  | _ => false

namespace Dispatch

theorem proceed_isFresh {dispatch next : Dispatch} {events : List Event}
    (possible : dispatch.proceed = some (next, events)) (fresh : next.phase.isFresh = true) :
    (dispatch.phase.isFresh = true ∧ next.redelivery = dispatch.redelivery) ∨
    (dispatch.phase = .draining false ∧ dispatch.pool.outcomes = [] ∧
      next = { dispatch with phase := .committing false } ∧ events = []) := by
  unfold proceed at possible
  cases phase : dispatch.phase with
  | draining last =>
      simp only [phase] at possible
      split at possible
      next outcomes =>
        cases possible
        cases last with
        | false => exact Or.inr ⟨rfl, outcomes, rfl, rfl⟩
        | true => cases fresh
      next =>
        simp only [takeOutcome] at possible
        split at possible <;> cases possible <;> simp [phase, Phase.isFresh] at fresh
  | committing last =>
      simp only [phase] at possible
      split at possible <;> cases possible
      cases last with
      | false => exact Or.inl ⟨rfl, rfl⟩
      | true => cases fresh
  | measuring =>
      simp only [phase] at possible
      cases possible
      exact Or.inl ⟨rfl, rfl⟩
  | regulating full =>
      simp only [phase] at possible
      split at possible <;> cases possible
      exact Or.inl ⟨rfl, rfl⟩
  | _ =>
      simp only [phase] at possible
      (repeat' split at possible) <;> cases possible <;> cases fresh

/-- The dispatcher comes to such a phase when no outcome is left, and brings no message
back until it leaves it. -/
theorem step_isFresh {dispatch next : Dispatch} {move : Move} {events : List Event}
    (possible : dispatch.step move = some (next, events)) (fresh : next.phase.isFresh = true) :
    (dispatch.phase.isFresh = true ∧ next.redelivery = dispatch.redelivery) ∨
    (dispatch.phase = .draining false ∧ dispatch.pool.outcomes = [] ∧
      next = { dispatch with phase := .committing false } ∧ events = []) := by
  cases move with
  | raise =>
      cases possible
      exact Or.inl ⟨fresh, rfl⟩
  | worker index workerMove =>
      obtain ⟨⟨pool, poolEvents⟩, poolStep, equal⟩ := Option.map_eq_some_iff.mp possible
      cases equal
      exact Or.inl ⟨fresh, rfl⟩
  | proceed => exact proceed_isFresh possible fresh
  | commit answer =>
      simp only [step] at possible
      split at possible
      next last message rest phase uncommitted =>
        left
        cases answer with
        | ok _ =>
            cases possible
            exact ⟨fresh, rfl⟩
        | error _ =>
            cases possible
            cases last with
            | false => exact ⟨by rw [phase]; rfl, rfl⟩
            | true => cases fresh
      next => cases possible
  | regulated answer =>
      simp only [step] at possible
      split at possible
      next full phase =>
        split at possible
        · cases possible
        · cases answer <;> cases possible <;> exact Or.inl ⟨by rw [phase]; rfl, rfl⟩
      next => cases possible
  | polled answer =>
      simp only [step, receive] at possible
      (repeat' split at possible) <;> cases possible <;> cases fresh
  | _ =>
      simp only [step] at possible
      (repeat' split at possible) <;> cases possible <;> cases fresh

/-- The backlog of a dispatcher whose consumer can be held back. -/
structure Paced (limits : Limits) (dispatch : Dispatch) (events : List Event) : Prop where
  staffed : Staffed limits dispatch events
  regulated : Regulated dispatch events
  bounded : (dispatch.backlog events).length ≤ room limits + 1
  fresh : dispatch.phase.isFresh = true → dispatch.redelivery = [] →
    (dispatch.backlog events).length ≤ room limits

theorem paced_initial (limits : Limits) : Paced limits (initial limits) [] where
  staffed := staffed_initial limits
  regulated := regulated_initial limits
  bounded := Nat.zero_le _
  fresh := fun _ _ => Nat.zero_le _

/-- When all outcomes are taken and none brought a message back, what is in the backlog has
room in the intake and with the workers. -/
theorem Staffed.backlog_le {limits : Limits} {dispatch : Dispatch} {events : List Event}
    (staffed : Staffed limits dispatch events) (offered : dispatch.offered = [])
    (outcomes : dispatch.pool.outcomes = []) (redelivery : dispatch.redelivery = []) :
    (dispatch.backlog events).length ≤ room limits := by
  have intake := staffed.intake
  have workers := staffed.workers
  have crew := staffed.crew
  have busy := dispatch.pool.busy_length_le
  simp only [backlog, returning, waiting, offered, outcomes, redelivery, List.filter_nil,
    List.map_nil, List.append_nil, List.nil_append, List.length_append, room]
  omega

theorem Paced.step {limits : Limits} {dispatch next : Dispatch} {move : Move}
    {events later : List Event} (paced : Paced limits dispatch events) (sound : dispatch.Sound)
    (possible : dispatch.step move = some (next, later))
    (obeyed : ∀ error, move ≠ .regulated (.error error))
    (heeds : HeedsPauses (events ++ later)) : Paced limits next (events ++ later) := by
  have balance := ((step_passes sound possible).balance events).length_eq
  simp only [List.length_append] at balance
  have staffed := paced.staffed.step sound possible
  have regulated := paced.regulated.step possible obeyed
  rcases step_delivered possible with nothing | ⟨message, full, rfl, choosing, empty, offering⟩
  · have noMore : (next.backlog (events ++ later)).length ≤ (dispatch.backlog events).length := by
      rw [nothing] at balance
      simp only [List.length_nil] at balance
      omega
    refine ⟨staffed, regulated, noMore.trans paced.bounded, ?_⟩
    intro fresh redelivery
    rcases step_isFresh possible fresh with ⟨before, same⟩ | ⟨phase, outcomes, rfl, rfl⟩
    · exact noMore.trans (paced.fresh before (same.symm.trans redelivery))
    · have offered_ := sound.offered_nil (by rw [phase]; rfl) (by rw [phase]; rfl)
      apply staffed.backlog_le _ outcomes redelivery
      simpa [offered, phase, Phase.inHand] using offered_
  · have free : full = false := by
      rw [← paced.regulated.heeded full choosing, paced.regulated.known]
      have unheld := heeds (events ++ [.polled]) message [] (by simp)
      rwa [isPaused_append_of_none rfl] at unheld
    have before := paced.fresh (by rw [choosing]; rfl) (empty free)
    have one : (delivered [.polled, .received message]).length = 1 := rfl
    refine ⟨staffed, regulated, by omega, ?_⟩
    intro fresh
    rw [offering] at fresh
    cases fresh

theorem Paced.steps {limits : Limits} {dispatch last : Dispatch} {moves : List Move}
    {events later : List Event} (paced : Paced limits dispatch events) (sound : dispatch.Sound)
    (run : dispatch.steps moves = some (last, later))
    (obeyed : ∀ error, .regulated (.error error) ∉ moves)
    (heeds : HeedsPauses (events ++ later)) : Paced limits last (events ++ later) := by
  induction moves generalizing dispatch events later with
  | nil =>
      cases run
      rw [List.append_nil]
      exact paced
  | cons move rest ih =>
      obtain ⟨next, now, after, possible, onward, rfl⟩ := steps_cons run
      rw [← List.append_assoc] at heeds ⊢
      have stepped := paced.step sound possible (fun error same =>
        obeyed error (same ▸ List.mem_cons_self)) heeds.left
      exact ih stepped (step_sound sound possible) onward
        (fun error member => obeyed error (List.mem_cons_of_mem _ member)) heeds

end Dispatch

open Dispatch

/-- The unfinished work of a delivery loop is bounded, whatever the workers do and however
long messages stay unresolved: where the consumer lets itself be held back and delivers
nothing then, there is at most one message more in the backlog than there is room for in
the intake and with the workers.  The backlog is what was delivered without what an outcome
has settled. -/
theorem backlog_bounded (limits : Limits) (moves : List Move) (dispatch : Dispatch)
    (events : List Event) (run : (initial limits).steps moves = some (dispatch, events))
    (obeyed : ∀ error, .regulated (.error error) ∉ moves) (heeds : HeedsPauses events) :
    (dispatch.backlog events).length ≤ max limits.capacity 1 + max limits.concurrency 1 + 1 ∧
      (dispatch.backlog events ++ settled events).Perm (delivered events) := by
  have paced := (paced_initial limits).steps (sound_initial limits) run obeyed heeds
  exact ⟨paced.bounded, (reached_of_steps run).balance⟩

/-- The bound is reached by one worker with room for one message: while the third message
is polled, the worker takes the second one and leaves the first one unresolved. -/
theorem backlog_bounded_full :
    let message (offset : Int) : Message := ⟨"stt.jobs", 0, offset, none, .empty, [], ""⟩
    let moves : List Move :=
      [.subscribed (.ok ()), .worker 0 .look,
        .proceed, .proceed, .proceed, .proceed, .proceed, .polled (.ok (some (message 0))),
        .proceed, .proceed, .proceed, .proceed, .proceed, .regulated (.ok ()),
        .polled (.ok none), .worker 0 .take,
        .proceed, .proceed, .proceed, .proceed, .regulated (.ok ()),
        .polled (.ok (some (message 1))), .proceed,
        .proceed, .proceed, .worker 0 (.finish .unresolved), .worker 0 .look, .worker 0 .take,
        .proceed, .proceed, .proceed, .polled (.ok (some (message 2)))]
    ∃ dispatch events, (initial { capacity := 1 }).steps moves = some (dispatch, events) ∧
      (∀ error, .regulated (.error error) ∉ moves) ∧ HeedsPauses events ∧
      (dispatch.backlog events).length = 3 ∧
      ((dispatch.backlog events).length ≤ max 1 1 + max 1 1 + 1 ∧
        (dispatch.backlog events ++ settled events).Perm (delivered events)) := by
  intro message moves
  have obeyed : ∀ error, .regulated (.error error) ∉ moves := by simp [moves]
  refine ⟨_, _, rfl, obeyed, by decide, by decide, ?_⟩
  exact backlog_bounded { capacity := 1 } moves _ _ rfl obeyed (by decide)

end Scribe.Delivery
