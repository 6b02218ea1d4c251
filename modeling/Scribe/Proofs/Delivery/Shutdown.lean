import Scribe.Proofs.Delivery.Prefixes

/-!
# The end of a run

After the dispatcher has stopped it waits for the workers, takes what outcomes are left,
and commits what they release until one commit is refused.  When it has ended no worker
has a message and no outcome waits.  If no commit was refused since it stopped, everything
that was released is committed.
-/

namespace Scribe.Delivery

open Scribe.Broker

/-- Whether the dispatcher commits nothing any more. -/
def Phase.isFinal : Phase → Bool
  | .closing => true
  | .ended _ => true
  | _ => false

namespace Dispatch

open History

/-! ## The last round -/

/-- The dispatcher has stopped, and goes on to close the consumer when everything released
is committed. -/
structure Stopped (dispatch : Dispatch) : Prop where
  isLast : dispatch.phase.isLast = true
  committed : dispatch.phase.isFinal = true → dispatch.uncommitted = []

theorem Stopped.proceed {dispatch next : Dispatch} {events : List Event}
    (stopped : dispatch.Stopped) (possible : dispatch.proceed = some (next, events)) :
    next.Stopped := by
  obtain ⟨isLast, committed_⟩ := stopped
  unfold Dispatch.proceed at possible
  cases phase : dispatch.phase with
  | draining last =>
      rw [phase] at isLast
      cases isLast
      cases outcomes : dispatch.pool.outcomes with
      | nil =>
          simp only [phase, outcomes] at possible
          cases possible
          exact ⟨rfl, by simp [Phase.isFinal]⟩
      | cons outcome rest =>
          simp only [phase, outcomes, takeOutcome] at possible
          split at possible
          · cases possible
            exact ⟨rfl, by simp [Phase.isFinal]⟩
          · cases possible
            exact ⟨rfl, by simp [Phase.isFinal]⟩
  | committing last =>
      rw [phase] at isLast
      cases isLast
      simp only [phase] at possible
      split at possible
      next empty =>
        cases possible
        exact ⟨rfl, fun _ => empty⟩
      next => cases possible
  | joining =>
      simp only [phase] at possible
      split at possible
      · cases possible
        exact ⟨rfl, by simp [Phase.isFinal]⟩
      · cases possible
  | closing => simp [phase] at possible
  | ended result => simp [phase] at possible
  | _ =>
      rw [phase] at isLast
      cases isLast

theorem Stopped.step {dispatch next : Dispatch} {move : Move} {events : List Event}
    (stopped : dispatch.Stopped) (possible : dispatch.step move = some (next, events))
    (accepted : ∀ message, .commitFailed message ∉ events) : next.Stopped := by
  have isLast := stopped.isLast
  cases move with
  | raise =>
      cases possible
      exact ⟨isLast, stopped.committed⟩
  | worker index workerMove =>
      obtain ⟨⟨pool, poolEvents⟩, poolStep, equal⟩ := Option.map_eq_some_iff.mp possible
      cases equal
      exact ⟨isLast, stopped.committed⟩
  | proceed => exact stopped.proceed possible
  | interrupt =>
      simp only [Dispatch.step] at possible
      split at possible
      next message phase =>
        rw [phase] at isLast
        cases isLast
      next => cases possible
  | subscribed answer =>
      simp only [Dispatch.step] at possible
      split at possible
      next phase =>
        rw [phase] at isLast
        cases isLast
      next error phase =>
        rw [phase] at isLast
        cases isLast
      next => cases possible
  | commit answer =>
      simp only [Dispatch.step] at possible
      split at possible
      next last message rest phase uncommitted =>
        cases answer with
        | ok _ =>
            cases possible
            exact ⟨isLast, by simp [phase, Phase.isFinal]⟩
        | error _ =>
            cases possible
            exact absurd List.mem_cons_self (accepted message)
      next => cases possible
  | regulated answer =>
      simp only [Dispatch.step] at possible
      split at possible
      next full phase =>
        rw [phase] at isLast
        cases isLast
      next => cases possible
  | polled answer =>
      simp only [Dispatch.step] at possible
      split at possible
      next full phase =>
        rw [phase] at isLast
        cases isLast
      next => cases possible
  | closed answer =>
      simp only [Dispatch.step] at possible
      split at possible
      next phase =>
        cases possible
        exact ⟨rfl, fun _ => stopped.committed (by rw [phase]; rfl)⟩
      next => cases possible

theorem Stopped.steps {dispatch last : Dispatch} {moves : List Move} {events : List Event}
    (stopped : dispatch.Stopped) (run : dispatch.steps moves = some (last, events))
    (accepted : ∀ message, .commitFailed message ∉ events) : last.Stopped := by
  induction moves generalizing dispatch events with
  | nil =>
      cases run
      exact stopped
  | cons move rest ih =>
      obtain ⟨next, now, later, possible, onward, equal⟩ := steps_cons run
      have acceptedNow : ∀ message, .commitFailed message ∉ now := by
        intro message member
        apply accepted message
        rw [equal]
        exact List.mem_append_left _ member
      apply ih (stopped.step possible acceptedNow) onward
      intro message member
      apply accepted message
      rw [equal]
      exact List.mem_append_right _ member

/-! ## After the end -/

/-- Workers that have left have no message. -/
theorem busy_of_isDeserted {pool : Pool} (deserted : pool.isDeserted = true) :
    pool.busy = [] := by
  apply List.filterMap_eq_nil_iff.mpr
  intro worker member
  have gone : worker = .gone := by
    simpa using List.all_eq_true.mp deserted worker member
  rw [gone]
  rfl

theorem Sound.busy_of_ended {dispatch : Dispatch} {result : Except Error Unit}
    (sound : dispatch.Sound) (ended : dispatch.phase = .ended result) :
    dispatch.pool.busy = [] := by
  apply busy_of_isDeserted
  apply sound.deserted
  rw [ended]
  rfl

theorem Sound.outcomes_of_ended {dispatch : Dispatch} {result : Except Error Unit}
    (sound : dispatch.Sound) (ended : dispatch.phase = .ended result) :
    dispatch.pool.outcomes = [] := by
  apply sound.drained
  rw [ended]
  rfl

end Dispatch

end Scribe.Delivery
