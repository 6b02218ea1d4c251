import Scribe.Proofs.Delivery.History

/-!
# What a move can bring about

Messages come with polls only, outcomes with the reports of workers, and commits with the
answers of the consumer.  A worker has a message that it took, and has it until it reports
or breaks down.
-/

namespace Scribe.Delivery

open Scribe.Broker
open History

namespace Pool

theorem busy_of_setWorker {pool : Pool} {index other : Nat} {new : Worker} {message : Message}
    (idle : new.message? = none)
    (busy : (pool.setWorker index new).workers[other]? = some (.busy message)) :
    pool.workers[other]? = some (.busy message) := by
  simp only [setWorker, List.getElem?_set] at busy
  split at busy
  · split at busy
    · cases busy
      cases idle
    · cases busy
  · exact busy

/-- A worker that has a message had it before, unless it takes one. -/
theorem step_busy {pool next : Pool} {index other : Nat} {move : WorkerMove}
    {events : List Event} {message : Message}
    (possible : pool.step index move = some (next, events)) (untaken : move ≠ .take)
    (busy : next.workers[other]? = some (.busy message)) :
    pool.workers[other]? = some (.busy message) := by
  unfold step at possible
  split at possible
  · cases possible
    apply busy_of_setWorker _ busy
    split <;> rfl
  · exact absurd rfl untaken
  · cases possible
    exact busy_of_setWorker rfl busy
  · split at possible
    · cases possible
      exact busy_of_setWorker rfl busy
    · cases possible
  · dsimp only at possible
    split at possible
    · cases possible
      exact busy_of_setWorker rfl busy
    · cases possible
      exact busy_of_setWorker rfl busy
  · cases possible
    exact busy_of_setWorker rfl busy
  · cases possible

/-- Only a waiting worker takes a message, and it is the first one of the intake. -/
theorem step_take_iff {pool next : Pool} {index : Nat} {events : List Event} :
    pool.step index .take = some (next, events) ↔
      pool.workers[index]? = some .waiting ∧ ∃ message rest, pool.intake = message :: rest ∧
        next = { pool with intake := rest }.setWorker index (.busy message) ∧
        events = [.started message] := by
  constructor
  · intro possible
    unfold step at possible
    split at possible
    next => contradiction
    next found _ =>
      refine ⟨found, ?_⟩
      split at possible
      · cases possible
      next message rest intake =>
        cases possible
        exact ⟨message, rest, intake, rfl, rfl⟩
    all_goals contradiction
  · rintro ⟨found, message, rest, intake, rfl, rfl⟩
    simp [step, found, intake]

/-- The worker that takes a message has it then, and the others keep theirs. -/
theorem step_take {pool next : Pool} {index other : Nat} {started message : Message}
    (possible : pool.step index .take = some (next, [.started started]))
    (busy : next.workers[other]? = some (.busy message)) :
    other = index ∧ message = started ∨
      other ≠ index ∧ pool.workers[other]? = some (.busy message) := by
  obtain ⟨_, first, rest, _, rfl, same⟩ := step_take_iff.mp possible
  cases same
  simp only [setWorker, List.getElem?_set] at busy
  split at busy
  next here =>
    split at busy
    · cases busy
      exact Or.inl ⟨here.symm, rfl⟩
    · cases busy
  next differs => exact Or.inr ⟨Ne.symm differs, busy⟩

/-- Only a worker with a message reports, and it reports about that message. -/
theorem step_finish {pool next : Pool} {index : Nat} {disposition : Disposition}
    {events : List Event}
    (possible : pool.step index (.finish disposition) = some (next, events)) :
    ∃ message, pool.workers[index]? = some (.busy message) ∧
      (events = [.finished ⟨message, disposition⟩] ∨ events = []) := by
  unfold step at possible
  split at possible
  all_goals try contradiction
  next message reported found same =>
    cases same
    refine ⟨message, found, ?_⟩
    dsimp only at possible
    split at possible
    · cases possible
      exact Or.inl rfl
    · cases possible
      exact Or.inr rfl

/-- Without a report there is no outcome, and no worker brings or commits a message. -/
theorem step_events {pool next : Pool} {index : Nat} {move : WorkerMove} {events : List Event}
    (possible : pool.step index move = some (next, events)) :
    delivered events = [] ∧ committed events = [] ∧
      ∀ outcome, .finished outcome ∈ events → ∃ disposition, move = .finish disposition := by
  unfold step at possible
  split at possible
  · cases possible
    exact ⟨rfl, rfl, by simp⟩
  · split at possible
    · cases possible
    · cases possible
      exact ⟨rfl, rfl, by simp⟩
  · cases possible
    exact ⟨rfl, rfl, by simp⟩
  · split at possible
    · cases possible
      exact ⟨rfl, rfl, by simp⟩
    · cases possible
  next message disposition found =>
    dsimp only at possible
    split at possible
    · cases possible
      exact ⟨rfl, rfl, fun _ _ => ⟨disposition, rfl⟩⟩
    · cases possible
      exact ⟨rfl, rfl, by simp⟩
  · cases possible
    exact ⟨rfl, rfl, by simp⟩
  · cases possible

end Pool

namespace Dispatch

/-- Whether a move concerns neither a message that comes, nor what a worker takes or
reports, nor an accepted commit. -/
def isPlain : Move → Bool
  | .polled (.ok (some _)) => false
  | .worker _ .take => false
  | .worker _ (.finish _) => false
  | .commit (.ok _) => false
  | _ => true

/-- To take an outcome moves no worker, and brings and commits no message. -/
theorem takeOutcome_frame (dispatch : Dispatch) (outcome : Outcome) (rest : List Outcome) :
    (dispatch.takeOutcome outcome rest).1.pool.workers = dispatch.pool.workers ∧
      delivered (dispatch.takeOutcome outcome rest).2 = [] ∧
      committed (dispatch.takeOutcome outcome rest).2 = [] ∧
      ∀ other, .finished other ∉ (dispatch.takeOutcome outcome rest).2 := by
  unfold takeOutcome
  split
  · exact ⟨rfl, rfl, rfl, by simp⟩
  · exact ⟨rfl, rfl, rfl, by simp⟩

theorem proceed_frame {dispatch next : Dispatch} {events : List Event}
    (possible : dispatch.proceed = some (next, events)) :
    next.pool.workers = dispatch.pool.workers ∧ delivered events = [] ∧
      committed events = [] ∧ ∀ outcome, .finished outcome ∉ events := by
  unfold proceed at possible
  split at possible
  next =>
    split at possible
    · cases possible
      exact ⟨rfl, rfl, rfl, by simp⟩
    · cases possible
      exact ⟨rfl, rfl, rfl, by simp⟩
  next last phase =>
    split at possible
    · cases possible
      exact ⟨rfl, rfl, rfl, by simp⟩
    next outcome rest outcomes =>
      have frame := takeOutcome_frame dispatch outcome rest
      rw [Option.some.inj possible] at frame
      exact frame
  all_goals
    (repeat' split at possible) <;> cases possible <;> exact ⟨rfl, rfl, rfl, by simp⟩

/-- Only the workers of a new pool are others, and they have no message yet. -/
theorem step_busy {dispatch next : Dispatch} {move : Move} {events : List Event}
    {index : Nat} {message : Message}
    (possible : dispatch.step move = some (next, events))
    (untaken : ∀ worker, move ≠ .worker worker .take)
    (busy : next.pool.workers[index]? = some (.busy message)) :
    dispatch.pool.workers[index]? = some (.busy message) := by
  cases move with
  | raise =>
      cases possible
      exact busy
  | worker worker workerMove =>
      obtain ⟨⟨pool, poolEvents⟩, poolStep, equal⟩ := Option.map_eq_some_iff.mp possible
      cases equal
      apply Pool.step_busy poolStep _ busy
      rintro rfl
      exact untaken worker rfl
  | proceed => rwa [← (proceed_frame possible).1]
  | interrupt =>
      simp only [step] at possible
      (repeat' split at possible) <;> cases possible
      exact busy
  | subscribed answer =>
      simp only [step] at possible
      split at possible
      · cases possible
        simp [Pool.spawn, List.getElem?_replicate] at busy
      · cases possible
        exact busy
      · cases possible
  | commit answer =>
      simp only [step] at possible
      cases answer <;> (repeat' split at possible) <;> cases possible <;> exact busy
  | regulated answer =>
      simp only [step] at possible
      cases answer <;> (repeat' split at possible) <;> cases possible <;> exact busy
  | polled answer =>
      simp only [step] at possible
      split at possible
      · split at possible
        · cases possible
        · have same := congrArg (fun pair => pair.1.pool) (Option.some.inj possible)
          have kept : (dispatch.receive answer).1.pool = dispatch.pool := by
            unfold receive
            (repeat' split) <;> rfl
          rw [← kept, same]
          exact busy
      · cases possible
  | closed answer =>
      simp only [step] at possible
      split at possible
      · cases possible
        exact busy
      · cases possible

/-- A plain move brings no message, no outcome and no accepted commit. -/
theorem step_plain {dispatch next : Dispatch} {move : Move} {events : List Event}
    (plain : isPlain move = true) (possible : dispatch.step move = some (next, events)) :
    delivered events = [] ∧ committed events = [] ∧
      ∀ outcome, .finished outcome ∉ events := by
  cases move with
  | raise =>
      cases possible
      exact ⟨rfl, rfl, by simp⟩
  | worker worker workerMove =>
      obtain ⟨⟨pool, poolEvents⟩, poolStep, equal⟩ := Option.map_eq_some_iff.mp possible
      cases equal
      obtain ⟨nothing, none, reports⟩ := Pool.step_events poolStep
      refine ⟨nothing, none, ?_⟩
      intro outcome member
      obtain ⟨disposition, rfl⟩ := reports outcome member
      cases plain
  | proceed => exact (proceed_frame possible).2
  | interrupt =>
      simp only [step] at possible
      (repeat' split at possible) <;> cases possible
      exact ⟨rfl, rfl, by simp⟩
  | subscribed answer =>
      simp only [step] at possible
      (repeat' split at possible) <;> cases possible <;> exact ⟨rfl, rfl, by simp⟩
  | commit answer =>
      simp only [step] at possible
      cases answer with
      | ok _ => cases plain
      | error _ =>
          (repeat' split at possible) <;> cases possible
          exact ⟨rfl, rfl, by simp⟩
  | regulated answer =>
      simp only [step] at possible
      cases answer <;> (repeat' split at possible) <;> cases possible <;>
        exact ⟨rfl, rfl, by simp⟩
  | polled answer =>
      simp only [step] at possible
      split at possible
      · split at possible
        · cases possible
        · have same := congrArg Prod.snd (Option.some.inj possible)
          have here : events = (dispatch.receive answer).2 := same.symm
          rw [here]
          unfold receive
          split
          · cases plain
          · exact ⟨rfl, rfl, by simp⟩
          · split
            · exact ⟨rfl, rfl, by simp⟩
            · exact ⟨rfl, rfl, by simp⟩
      · cases possible
  | closed answer =>
      simp only [step] at possible
      (repeat' split at possible) <;> cases possible
      exact ⟨rfl, rfl, by simp⟩

theorem step_polled_events {dispatch next : Dispatch} {message : Message} {events : List Event}
    (possible : dispatch.step (.polled (.ok (some message))) = some (next, events)) :
    events = [.polled, .received message] := by
  simp only [step] at possible
  (repeat' split at possible) <;> cases possible
  rfl

/-- An accepted commit is one of a released message. -/
theorem step_commit_events {dispatch next : Dispatch} {events : List Event}
    (possible : dispatch.step (.commit (.ok ())) = some (next, events)) :
    ∃ message, events = [.committed message] := by
  simp only [step] at possible
  (repeat' split at possible) <;> cases possible
  exact ⟨_, rfl⟩

end Dispatch

end Scribe.Delivery
