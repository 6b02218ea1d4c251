import Scribe.Proofs.Delivery.Phases

/-!
# What a step does to messages

A message that was delivered and is not settled waits, is being handled, or has an outcome
that was not taken yet.  It waits in the hand of the dispatcher, in the intake or for its
redelivery.  Every step of the delivery loop does one of nine things to the messages:
nothing, or deliver one, hand one to a worker, report its outcome, lose it with its
worker, take it back, settle it, commit it, or have its commit refused.

`step_passes` says so once, for all moves and phases; what holds of whole runs is proved
from the nine cases.
-/

namespace Scribe.Delivery

open Scribe.Broker

/-! ## Workers and their queues -/

namespace Pool

theorem filterMap_message?_middle (front back : List Worker) (worker : Worker) :
    (front ++ worker :: back).filterMap Worker.message? =
      front.filterMap Worker.message? ++
        (worker.message?.toList ++ back.filterMap Worker.message?) := by
  cases worker <;> simp [Worker.message?, List.filterMap_cons]

/-- When a worker changes, the messages in work change by what it puts down and takes up. -/
theorem busy_setWorker {pool : Pool} {index : Nat} {old : Worker} (new : Worker)
    (found : pool.workers[index]? = some old) :
    ((pool.setWorker index new).busy ++ old.message?.toList).Perm
      (pool.busy ++ new.message?.toList) := by
  obtain ⟨inBounds, isOld⟩ := List.getElem?_eq_some_iff.mp found
  have before : pool.workers =
      pool.workers.take index ++ old :: pool.workers.drop (index + 1) := by
    rw [← isOld, ← List.drop_eq_getElem_cons inBounds, List.take_append_drop]
  have after : pool.workers.set index new =
      pool.workers.take index ++ new :: pool.workers.drop (index + 1) := by
    rw [List.set_eq_take_append_cons_drop, if_pos inBounds]
  have busyBefore : pool.busy = _ :=
    (congrArg (List.filterMap Worker.message?) before).trans
      (filterMap_message?_middle _ _ _)
  have busyAfter : (pool.setWorker index new).busy = _ :=
    (congrArg (List.filterMap Worker.message?) after).trans (filterMap_message?_middle _ _ _)
  rw [busyBefore, busyAfter]
  apply List.perm_iff_count.mpr
  intro message
  simp only [List.count_append]
  omega

/-- What a move of a worker does to messages. -/
inductive Passes (before after : Pool) : List Event → Prop
  | quiet
      (intake : after.intake = before.intake)
      (busy : after.busy.Perm before.busy)
      (outcomes : after.outcomes = before.outcomes) : Passes before after []
  | start (message : Message)
      (intake : before.intake = message :: after.intake)
      (busy : after.busy.Perm (message :: before.busy))
      (outcomes : after.outcomes = before.outcomes) : Passes before after [.started message]
  | finish (outcome : Outcome)
      (intake : after.intake = before.intake)
      (busy : before.busy.Perm (outcome.message :: after.busy))
      (outcomes : after.outcomes = before.outcomes ++ [outcome]) :
      Passes before after [.finished outcome]
  | crash (message : Message)
      (intake : after.intake = before.intake)
      (busy : before.busy.Perm (message :: after.busy))
      (outcomes : after.outcomes = before.outcomes) : Passes before after [.crashed message]

/-- A worker that has no message and gets none changes no queue. -/
theorem Passes.of_idle {pool : Pool} {index : Nat} {old new : Worker}
    (found : pool.workers[index]? = some old) (oldIdle : old.message? = none)
    (newIdle : new.message? = none) : Passes pool (pool.setWorker index new) [] := by
  refine .quiet rfl ?_ rfl
  have changed := busy_setWorker new found
  simpa [oldIdle, newIdle] using changed

theorem step_passes {pool next : Pool} {index : Nat} {move : WorkerMove}
    {events : List Event} (listening : pool.listening = true)
    (possible : pool.step index move = some (next, events)) : Passes pool next events := by
  unfold step at possible
  split at possible
  next found =>
    cases possible
    split
    · exact .of_idle found rfl rfl
    · exact .of_idle found rfl rfl
  next found =>
    split at possible
    · cases possible
    next message rest intake =>
      cases possible
      have changed := busy_setWorker (.busy message) found
      refine .start message intake ?_ rfl
      have taken : (({ pool with intake := rest }.setWorker index (.busy message)).busy).Perm
          (pool.busy ++ [message]) := by
        simpa [Worker.message?, busy, setWorker] using changed
      exact taken.trans (List.perm_append_singleton message pool.busy)
  next found =>
    cases possible
    exact .of_idle found rfl rfl
  next found =>
    split at possible
    · cases possible
      exact .of_idle found rfl rfl
    · cases possible
  next message disposition found =>
    rw [if_pos listening] at possible
    cases possible
    have changed := busy_setWorker .looking found
    refine .finish ⟨message, disposition⟩ rfl ?_ rfl
    have put : pool.busy.Perm ((pool.setWorker index .looking).busy ++ [message]) := by
      simpa [Worker.message?, busy, setWorker] using changed.symm
    exact put.trans (List.perm_append_singleton message _)
  next message found =>
    cases possible
    have changed := busy_setWorker .gone found
    refine .crash message rfl ?_ rfl
    have put : pool.busy.Perm ((pool.setWorker index .gone).busy ++ [message]) := by
      simpa [Worker.message?, busy, setWorker] using changed.symm
    exact put.trans (List.perm_append_singleton message _)
  next => cases possible

end Pool

/-! ## The dispatcher -/

/-- The message that is on offer to the intake. -/
def Phase.inHand : Phase → List Message
  | .offering message => [message]
  | _ => []

namespace Dispatch

/-- The message in the hand of the dispatcher: on offer, or kept when it stopped. -/
def offered (dispatch : Dispatch) : List Message :=
  dispatch.phase.inHand ++ dispatch.unsent.toList

/-- The messages that wait for a worker. -/
def waiting (dispatch : Dispatch) : List Message :=
  dispatch.offered ++ dispatch.pool.intake ++ dispatch.redelivery

/-- The delivered messages that no outcome has settled yet. -/
def unsettled (dispatch : Dispatch) : List Message :=
  dispatch.waiting ++ dispatch.pool.busy ++ dispatch.pool.outcomes.map Outcome.message

/-- What a step of the delivery loop does to messages. -/
inductive Passes (before after : Dispatch) : List Event → Prop
  /-- No message moves. -/
  | quiet {events : List Event} (silent : ∀ event ∈ events, event.IsSilent)
      (waiting : after.waiting.Perm before.waiting)
      (busy : after.pool.busy.Perm before.pool.busy)
      (outcomes : after.pool.outcomes = before.pool.outcomes)
      (watermark : after.watermark = before.watermark)
      (uncommitted : after.uncommitted = before.uncommitted) : Passes before after events
  /-- A message comes from the consumer. -/
  | deliver (message : Message)
      (waiting : after.waiting.Perm (message :: before.waiting))
      (busy : after.pool.busy = before.pool.busy)
      (outcomes : after.pool.outcomes = before.pool.outcomes)
      (watermark : after.watermark = before.watermark.track message)
      (uncommitted : after.uncommitted = before.uncommitted) :
      Passes before after [.polled, .received message]
  /-- A worker takes a message. -/
  | start (message : Message)
      (waiting : before.waiting.Perm (message :: after.waiting))
      (busy : after.pool.busy.Perm (message :: before.pool.busy))
      (outcomes : after.pool.outcomes = before.pool.outcomes)
      (watermark : after.watermark = before.watermark)
      (uncommitted : after.uncommitted = before.uncommitted) :
      Passes before after [.started message]
  /-- A worker reports the outcome of its message. -/
  | finish (outcome : Outcome)
      (waiting : after.waiting = before.waiting)
      (busy : before.pool.busy.Perm (outcome.message :: after.pool.busy))
      (outcomes : after.pool.outcomes = before.pool.outcomes ++ [outcome])
      (watermark : after.watermark = before.watermark)
      (uncommitted : after.uncommitted = before.uncommitted) :
      Passes before after [.finished outcome]
  /-- A worker breaks down, and its message is lost. -/
  | crash (message : Message)
      (waiting : after.waiting = before.waiting)
      (busy : before.pool.busy.Perm (message :: after.pool.busy))
      (outcomes : after.pool.outcomes = before.pool.outcomes)
      (watermark : after.watermark = before.watermark)
      (uncommitted : after.uncommitted = before.uncommitted) :
      Passes before after [.crashed message]
  /-- The dispatcher takes an outcome that does not settle its message. -/
  | redeliver (outcome : Outcome) (unsettled : outcome.commits = false)
      (waiting : after.waiting.Perm (outcome.message :: before.waiting))
      (busy : after.pool.busy = before.pool.busy)
      (outcomes : before.pool.outcomes = outcome :: after.pool.outcomes)
      (watermark : after.watermark = before.watermark)
      (uncommitted : after.uncommitted = before.uncommitted) :
      Passes before after [.redelivered outcome.message]
  /-- The dispatcher takes an outcome that settles its message. -/
  | settle (outcome : Outcome) (settled : outcome.commits = true)
      (waiting : after.waiting = before.waiting)
      (busy : after.pool.busy = before.pool.busy)
      (outcomes : before.pool.outcomes = outcome :: after.pool.outcomes)
      (watermark : after.watermark = (before.watermark.complete outcome.message).2)
      (uncommitted : after.uncommitted =
        before.uncommitted ++ (before.watermark.complete outcome.message).1) :
      Passes before after []
  /-- The consumer accepts the commit of the first released message. -/
  | commit (message : Message)
      (waiting : after.waiting = before.waiting)
      (busy : after.pool.busy = before.pool.busy)
      (outcomes : after.pool.outcomes = before.pool.outcomes)
      (watermark : after.watermark = before.watermark)
      (uncommitted : before.uncommitted = message :: after.uncommitted) :
      Passes before after [.committed message]
  /-- The consumer refuses it. -/
  | refuse (message : Message)
      (waiting : after.waiting = before.waiting)
      (busy : after.pool.busy = before.pool.busy)
      (outcomes : after.pool.outcomes = before.pool.outcomes)
      (watermark : after.watermark = before.watermark)
      (uncommitted : after.uncommitted = before.uncommitted)
      (first : before.uncommitted.head? = some message) :
      Passes before after [.commitFailed message]

/-- A step that leaves alone all that messages are in. -/
theorem Passes.of_same {before after : Dispatch} {events : List Event}
    (silent : ∀ event ∈ events, event.IsSilent)
    (offered : after.offered = before.offered)
    (intake : after.pool.intake = before.pool.intake)
    (workers : after.pool.workers = before.pool.workers)
    (outcomes : after.pool.outcomes = before.pool.outcomes)
    (redelivery : after.redelivery = before.redelivery)
    (watermark : after.watermark = before.watermark)
    (uncommitted : after.uncommitted = before.uncommitted) : Passes before after events := by
  refine .quiet silent ?_ ?_ outcomes watermark uncommitted
  · rw [waiting, waiting, offered, intake, redelivery]
  · rw [Pool.busy, workers]
    exact List.Perm.refl _

/-- A step to another phase, with the same in hand. -/
theorem Passes.of_phase {before after : Dispatch} {phase : Phase} {events : List Event}
    (silent : ∀ event ∈ events, event.IsSilent) (here : before.phase = phase)
    (hand : after.phase.inHand = phase.inHand) (unsent : after.unsent = before.unsent)
    (pool : after.pool = before.pool) (redelivery : after.redelivery = before.redelivery)
    (watermark : after.watermark = before.watermark)
    (uncommitted : after.uncommitted = before.uncommitted) : Passes before after events := by
  have offered_ : after.offered = before.offered := by
    rw [offered, offered, hand, here, unsent]
  refine .of_same silent offered_ ?_ ?_ ?_ redelivery watermark uncommitted
  · rw [pool]
  · rw [pool]
  · rw [pool]

theorem takeOutcome_passes (dispatch : Dispatch) {outcome : Outcome} {rest : List Outcome}
    (outcomes : dispatch.pool.outcomes = outcome :: rest) :
    Passes dispatch (dispatch.takeOutcome outcome rest).1
      (dispatch.takeOutcome outcome rest).2 := by
  unfold takeOutcome
  split
  next settled => exact .settle outcome settled rfl rfl outcomes rfl rfl
  next unsettled =>
    refine .redeliver outcome (by simpa using unsettled) ?_ rfl outcomes rfl rfl
    simp only [waiting, offered]
    apply List.perm_iff_count.mpr
    intro message
    simp only [List.count_append, List.count_cons, List.count_nil]
    omega

/-- Where no message is on offer and none was kept, the hand is empty. -/
theorem Sound.offered_nil {dispatch : Dispatch} (sound : dispatch.Sound)
    (taking : dispatch.phase.isLast = false) (empty : dispatch.phase.inHand = []) :
    dispatch.offered = [] := by
  rw [offered, empty, sound.unsent taking]
  rfl

theorem Sound.offered_singleton {dispatch : Dispatch} (sound : dispatch.Sound)
    {message : Message} (phase : dispatch.phase = .offering message) :
    dispatch.offered = [message] := by
  rw [offered, phase, sound.unsent (by rw [phase]; rfl)]
  rfl

/-- To stop with the message on offer keeps it in the hand. -/
theorem stop_passes (dispatch : Dispatch) {kept : Option Message}
    (offered_ : dispatch.offered = kept.toList) : Passes dispatch (dispatch.stop kept) [] := by
  refine .of_same (by simp) ?_ rfl rfl rfl rfl rfl rfl
  rw [offered_]
  rfl

theorem proceed_passes {dispatch next : Dispatch} {events : List Event}
    (sound : dispatch.Sound) (possible : dispatch.proceed = some (next, events)) :
    Passes dispatch next events := by
  have quietly : ∀ event ∈ ([] : List Event), event.IsSilent := by simp
  unfold proceed at possible
  cases phase : dispatch.phase with
  | subscribing => simp [phase] at possible
  | checking =>
      simp only [phase] at possible
      split at possible
      · cases possible
        exact stop_passes dispatch (sound.offered_nil (by rw [phase]; rfl) (by rw [phase]; rfl))
      · cases possible
        exact .of_phase quietly phase rfl rfl rfl rfl rfl rfl
  | draining last =>
      cases outcomes : dispatch.pool.outcomes with
      | nil =>
          simp only [phase, outcomes] at possible
          cases possible
          exact .of_phase quietly phase rfl rfl rfl rfl rfl rfl
      | cons outcome rest =>
          simp only [phase, outcomes] at possible
          have passes := takeOutcome_passes dispatch outcomes
          rw [Option.some.inj possible] at passes
          exact passes
  | committing last =>
      simp only [phase] at possible
      split at possible
      · cases possible
        refine .of_phase quietly phase ?_ rfl rfl rfl rfl rfl
        cases last with
        | false => rfl
        | true => rfl
      · cases possible
  | measuring =>
      simp only [phase] at possible
      cases possible
      exact .of_phase quietly phase rfl rfl rfl rfl rfl rfl
  | regulating full =>
      simp only [phase] at possible
      split at possible
      · cases possible
        refine .of_phase ?_ phase rfl rfl rfl rfl rfl rfl
        simp [Event.IsSilent, Event.delivered?, Event.subject?, Event.asked?]
      · cases possible
  | choosing full =>
      simp only [phase] at possible
      split at possible
      next message rest redelivery =>
        cases possible
        have empty := sound.offered_nil (by rw [phase]; rfl) (by rw [phase]; rfl)
        have unsent := sound.unsent (by rw [phase]; rfl)
        refine .quiet quietly ?_ (List.Perm.refl _) rfl rfl rfl
        rw [waiting, waiting, empty, redelivery]
        simp only [offered, Phase.inHand, unsent, Option.toList_none]
        apply List.perm_iff_count.mpr
        intro other
        simp only [List.count_append, List.count_cons, List.count_nil]
        omega
      · cases possible
  | resting =>
      simp only [phase] at possible
      cases possible
      exact .of_phase quietly phase rfl rfl rfl rfl rfl rfl
  | offering message =>
      simp only [phase] at possible
      split at possible
      · cases possible
        exact stop_passes dispatch (sound.offered_singleton phase)
      · split at possible
        · cases possible
        · cases possible
          have unsent := sound.unsent (by rw [phase]; rfl)
          refine .quiet quietly ?_ (List.Perm.refl _) rfl rfl rfl
          rw [waiting, waiting, sound.offered_singleton phase]
          simp only [offered, Phase.inHand, unsent, Option.toList_none]
          apply List.perm_iff_count.mpr
          intro other
          simp only [List.count_append, List.count_cons, List.count_nil]
          omega
  | joining =>
      simp only [phase] at possible
      split at possible
      · cases possible
        exact .of_phase quietly phase rfl rfl rfl rfl rfl rfl
      · cases possible
  | closing => simp [phase] at possible
  | ended result => simp [phase] at possible

theorem accept_passes {dispatch : Dispatch} {last : Bool} {message : Message}
    {rest : List Message} (phase : dispatch.phase = .committing last)
    (uncommitted : dispatch.uncommitted = message :: rest) (answer : Except Error Unit) :
    Passes dispatch (dispatch.accept last message rest answer).1
      (dispatch.accept last message rest answer).2 := by
  cases answer with
  | ok _ => exact .commit message rfl rfl rfl rfl uncommitted
  | error _ =>
      refine .refuse message ?_ rfl rfl rfl rfl (by simp [uncommitted])
      cases last <;> simp [accept, waiting, offered, phase, afterCommit, Phase.inHand]

theorem receive_passes {dispatch : Dispatch} {full : Bool} (sound : dispatch.Sound)
    (phase : dispatch.phase = .choosing full) (answer : Except Error (Option Message)) :
    Passes dispatch (dispatch.receive answer).1 (dispatch.receive answer).2 := by
  have silent : ∀ event ∈ [Event.polled, Event.brokerFailed], event.IsSilent := by
    simp [Event.IsSilent, Event.delivered?, Event.subject?, Event.asked?]
  have polledSilent : ∀ event ∈ [Event.polled], event.IsSilent := by
    intro event member
    exact silent event (by simp_all)
  unfold receive
  split
  next message =>
    have empty := sound.offered_nil (by rw [phase]; rfl) (by rw [phase]; rfl)
    have unsent := sound.unsent (by rw [phase]; rfl)
    refine .deliver message ?_ rfl rfl rfl rfl
    rw [waiting, waiting, empty]
    simp only [offered, Phase.inHand, unsent, Option.toList_none]
    exact List.Perm.refl _
  · exact .of_phase polledSilent phase rfl rfl rfl rfl rfl rfl
  · split
    · exact .of_phase polledSilent phase rfl rfl rfl rfl rfl rfl
    · exact .of_phase silent phase rfl rfl rfl rfl rfl rfl

/-- What workers do to messages, seen from the loop. -/
theorem passes_of_pool {dispatch : Dispatch} {pool : Pool} {events : List Event}
    (passes : Pool.Passes dispatch.pool pool events) :
    Passes dispatch { dispatch with pool } events := by
  cases passes with
  | quiet intake busy outcomes =>
      refine .quiet (by simp) ?_ busy outcomes rfl rfl
      simp [waiting, offered, intake]
  | start message intake busy outcomes =>
      refine .start message ?_ busy outcomes rfl rfl
      simp only [waiting, offered, intake]
      apply List.perm_iff_count.mpr
      intro other
      simp only [List.count_append, List.count_cons]
      omega
  | finish outcome intake busy outcomes =>
      refine .finish outcome ?_ busy outcomes rfl rfl
      simp [waiting, offered, intake]
  | crash message intake busy outcomes =>
      refine .crash message ?_ busy outcomes rfl rfl
      simp [waiting, offered, intake]

theorem step_passes {dispatch next : Dispatch} {move : Move} {events : List Event}
    (sound : dispatch.Sound) (possible : dispatch.step move = some (next, events)) :
    Passes dispatch next events := by
  have quietly : ∀ event ∈ ([] : List Event), event.IsSilent := by simp
  cases move with
  | raise =>
      cases possible
      exact .of_same quietly rfl rfl rfl rfl rfl rfl rfl
  | worker index workerMove =>
      obtain ⟨⟨pool, poolEvents⟩, poolStep, equal⟩ := Option.map_eq_some_iff.mp possible
      cases equal
      exact passes_of_pool (Pool.step_passes sound.listening poolStep)
  | proceed => exact proceed_passes sound possible
  | interrupt =>
      simp only [step] at possible
      split at possible
      next message phase =>
        split at possible
        · cases possible
          exact stop_passes dispatch (sound.offered_singleton phase)
        · cases possible
      next => cases possible
  | subscribed answer =>
      simp only [step] at possible
      split at possible
      next phase =>
        cases possible
        obtain ⟨intake, workers, outcomes⟩ := sound.idle phase
        refine .quiet quietly ?_ ?_ outcomes.symm rfl rfl
        · simp [waiting, offered, phase, Phase.inHand, intake, Pool.spawn]
        · simp [Pool.busy, workers, Pool.spawn, Worker.message?]
      next error phase =>
        cases possible
        exact .of_phase quietly phase rfl rfl rfl rfl rfl rfl
      next => cases possible
  | commit answer =>
      simp only [step] at possible
      split at possible
      next last message rest phase uncommitted =>
        have passes := accept_passes phase uncommitted answer
        rw [Option.some.inj possible] at passes
        exact passes
      next => cases possible
  | regulated answer =>
      simp only [step] at possible
      split at possible
      next full phase =>
        split at possible
        · cases possible
        · have silent : ∀ event ∈ events, event.IsSilent := by
            cases answer <;> cases possible <;>
              simp [Event.IsSilent, Event.delivered?, Event.subject?, Event.asked?]
          cases answer <;> cases possible <;>
            exact .of_phase silent phase rfl rfl rfl rfl rfl rfl
      next => cases possible
  | polled answer =>
      simp only [step] at possible
      split at possible
      next full phase =>
        split at possible
        · cases possible
        · have passes := receive_passes sound phase answer
          rw [Option.some.inj possible] at passes
          exact passes
      next => cases possible
  | closed answer =>
      simp only [step] at possible
      split at possible
      next phase =>
        cases possible
        exact .of_phase quietly phase rfl rfl rfl rfl rfl rfl
      next => cases possible

end Dispatch

end Scribe.Delivery
