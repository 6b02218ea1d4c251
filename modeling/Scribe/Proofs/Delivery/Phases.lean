import Scribe.Proofs.Delivery.Watermark

/-!
# Phases of the dispatcher

A few facts tie the phase of the dispatcher to its pool.  The outcomes are listened to as
long as there are workers; after the dispatcher has stopped it takes no more messages; it
goes on to its last round when all workers have left, and from that round it goes on when
no outcome is left.  `Sound` collects them, and every step keeps it.
-/

namespace Scribe.Delivery

open Scribe.Broker

/-! ## Frames of the workers -/

namespace Pool

/-- Workers that have left make no move. -/
theorem step_of_isDeserted {pool : Pool} (deserted : pool.isDeserted = true) (index : Nat)
    (move : WorkerMove) : pool.step index move = none := by
  have gone : ∀ worker, pool.workers[index]? = some worker → worker = .gone := by
    intro worker found
    have member := List.mem_of_getElem? found
    simpa using List.all_eq_true.mp deserted worker member
  unfold step
  split
  next found => cases gone _ found
  next found => cases gone _ found
  next found => cases gone _ found
  next found => cases gone _ found
  next found => cases gone _ found
  next found => cases gone _ found
  next => rfl

/-- Workers change neither the flag nor what is open. -/
theorem step_frame {pool next : Pool} {index : Nat} {move : WorkerMove} {events : List Event}
    (possible : pool.step index move = some (next, events)) :
    next.listening = pool.listening ∧ next.shutdown = pool.shutdown ∧
      next.accepting = pool.accepting ∧ next.capacity = pool.capacity := by
  unfold step at possible
  (repeat' split at possible) <;> cases possible <;> exact ⟨rfl, rfl, rfl, rfl⟩

end Pool

/-! ## Phases -/

/-- Whether the dispatcher has stopped taking messages. -/
def Phase.isLast : Phase → Bool
  | .draining last => last
  | .committing last => last
  | .joining => true
  | .closing => true
  | .ended _ => true
  | _ => false

/-- Whether the dispatcher has seen all workers leave. -/
def Phase.isDeserted : Phase → Bool
  | .draining last => last
  | .committing last => last
  | .closing => true
  | .ended _ => true
  | _ => false

/-- Whether the dispatcher has taken the last outcome. -/
def Phase.isDrained : Phase → Bool
  | .committing last => last
  | .closing => true
  | .ended _ => true
  | _ => false

namespace Dispatch

/-- What holds of the dispatcher and its pool in each phase. -/
structure Sound (dispatch : Dispatch) : Prop where
  /-- The outcomes are listened to as long as there are workers. -/
  listening : dispatch.pool.listening = true
  /-- Before the subscription there is nobody and nothing. -/
  idle : dispatch.phase = .subscribing →
    dispatch.pool.intake = [] ∧ dispatch.pool.workers = [] ∧ dispatch.pool.outcomes = []
  /-- A message is kept only by a dispatcher that has stopped. -/
  unsent : dispatch.phase.isLast = false → dispatch.unsent = none
  deserted : dispatch.phase.isDeserted = true → dispatch.pool.isDeserted = true
  drained : dispatch.phase.isDrained = true → dispatch.pool.outcomes = []

theorem sound_initial (limits : Limits) : Sound (initial limits) where
  listening := rfl
  idle := by
    intro _
    exact ⟨rfl, rfl, rfl⟩
  unsent := by
    intro _
    rfl
  deserted := by
    intro late
    cases late
  drained := by
    intro late
    cases late

/-- A step that leaves the pool alone is sound if its phase suits the pool. -/
theorem Sound.of_pool_eq {dispatch next : Dispatch} (sound : dispatch.Sound)
    (pool : next.pool = dispatch.pool) (begun : next.phase ≠ .subscribing)
    (unsent : next.phase.isLast = false → next.unsent = none)
    (deserted : next.phase.isDeserted = true → dispatch.pool.isDeserted = true)
    (drained : next.phase.isDrained = true → dispatch.pool.outcomes = []) : next.Sound where
  listening := by
    rw [pool]
    exact sound.listening
  idle := by
    intro subscribing
    exact absurd subscribing begun
  unsent := unsent
  deserted := by
    rw [pool]
    exact deserted
  drained := by
    rw [pool]
    exact drained

/-- Where the dispatcher still takes messages, the next phase may be any such phase. -/
theorem Sound.of_taking {dispatch next : Dispatch} {phase : Phase} (sound : dispatch.Sound)
    (here : dispatch.phase = phase) (taking : phase.isLast = false)
    (pool : next.pool = dispatch.pool) (unsent : next.unsent = dispatch.unsent)
    (begun : next.phase ≠ .subscribing) (deserted : next.phase.isDeserted = false)
    (drained : next.phase.isDrained = false) : next.Sound := by
  apply sound.of_pool_eq pool begun
  · intro _
    rw [unsent]
    apply sound.unsent
    rw [here]
    exact taking
  · intro late
    rw [deserted] at late
    cases late
  · intro late
    rw [drained] at late
    cases late

/-- A dispatcher that stops waits for its workers next. -/
theorem Sound.stop {dispatch : Dispatch} (sound : dispatch.Sound) (kept : Option Message) :
    (dispatch.stop kept).Sound where
  listening := sound.listening
  idle := by
    intro subscribing
    cases subscribing
  unsent := by
    intro taking
    cases taking
  deserted := by
    intro late
    cases late
  drained := by
    intro late
    cases late

/-- After the commits the dispatcher goes on as before, or closes the consumer. -/
theorem Sound.after_commit {dispatch : Dispatch} {last : Bool} (sound : dispatch.Sound)
    (phase : dispatch.phase = .committing last) :
    Sound { dispatch with phase := afterCommit last } := by
  cases last with
  | false =>
      exact sound.of_taking phase rfl rfl rfl (by simp [afterCommit]) rfl rfl
  | true =>
      have deserted := sound.deserted (by rw [phase]; rfl)
      have drained := sound.drained (by rw [phase]; rfl)
      exact sound.of_pool_eq rfl (by simp [afterCommit]) (by simp [afterCommit, Phase.isLast])
        (fun _ => deserted) (fun _ => drained)

theorem takeOutcome_sound {dispatch : Dispatch} {last : Bool} (sound : dispatch.Sound)
    (phase : dispatch.phase = .draining last) (outcome : Outcome) (rest : List Outcome) :
    (dispatch.takeOutcome outcome rest).1.Sound := by
  unfold takeOutcome
  split
  · constructor
    · exact sound.listening
    · simp [phase]
    · exact sound.unsent
    · exact sound.deserted
    · simp [phase, Phase.isDrained]
  · constructor
    · exact sound.listening
    · simp [phase]
    · exact sound.unsent
    · exact sound.deserted
    · simp [phase, Phase.isDrained]

theorem proceed_sound {dispatch next : Dispatch} {events : List Event}
    (sound : dispatch.Sound) (possible : dispatch.proceed = some (next, events)) :
    next.Sound := by
  unfold proceed at possible
  cases phase : dispatch.phase with
  | subscribing => simp [phase] at possible
  | checking =>
      simp only [phase] at possible
      split at possible
      · cases possible
        exact sound.stop none
      · cases possible
        exact sound.of_taking phase rfl rfl rfl (by simp) rfl rfl
  | draining last =>
      have unsent := sound.unsent
      have deserted := sound.deserted
      simp only [phase] at possible unsent deserted
      cases outcomes : dispatch.pool.outcomes with
      | nil =>
          simp only [outcomes] at possible
          cases possible
          exact sound.of_pool_eq rfl (by simp) unsent deserted (fun _ => outcomes)
      | cons outcome rest =>
          simp only [outcomes, Option.some.injEq] at possible
          have taken := takeOutcome_sound sound phase outcome rest
          rw [possible] at taken
          exact taken
  | committing last =>
      simp only [phase] at possible
      split at possible
      · cases possible
        exact sound.after_commit phase
      · cases possible
  | measuring =>
      simp only [phase] at possible
      cases possible
      exact sound.of_taking phase rfl rfl rfl (by simp) rfl rfl
  | regulating full =>
      simp only [phase] at possible
      split at possible
      · cases possible
        exact sound.of_taking phase rfl rfl rfl (by simp) rfl rfl
      · cases possible
  | choosing full =>
      simp only [phase] at possible
      split at possible
      · cases possible
        exact sound.of_taking phase rfl rfl rfl (by simp) rfl rfl
      · cases possible
  | resting =>
      simp only [phase] at possible
      cases possible
      exact sound.of_taking phase rfl rfl rfl (by simp) rfl rfl
  | offering message =>
      simp only [phase] at possible
      split at possible
      · cases possible
        exact sound.stop (some message)
      · split at possible
        · cases possible
        · cases possible
          have unsent := sound.unsent (by rw [phase]; rfl)
          exact ⟨sound.listening, by simp, fun _ => unsent, by simp [Phase.isDeserted],
            by simp [Phase.isDrained]⟩
  | joining =>
      simp only [phase] at possible
      split at possible
      next left =>
        cases possible
        exact sound.of_pool_eq rfl (by simp) (by simp [Phase.isLast]) (fun _ => left)
          (by simp [Phase.isDrained])
      next => cases possible
  | closing => simp [phase] at possible
  | ended result => simp [phase] at possible

theorem accept_sound {dispatch : Dispatch} {last : Bool} (sound : dispatch.Sound)
    (phase : dispatch.phase = .committing last) (message : Message) (rest : List Message)
    (answer : Except Error Unit) : (dispatch.accept last message rest answer).1.Sound := by
  cases answer with
  | ok _ => exact ⟨sound.listening, sound.idle, sound.unsent, sound.deserted, sound.drained⟩
  | error _ => exact sound.after_commit phase

theorem receive_sound {dispatch : Dispatch} {full : Bool} (sound : dispatch.Sound)
    (phase : dispatch.phase = .choosing full) (answer : Except Error (Option Message)) :
    (dispatch.receive answer).1.Sound := by
  unfold receive
  split
  · exact sound.of_taking phase rfl rfl rfl (by simp) rfl rfl
  · exact sound.of_taking phase rfl rfl rfl (by simp) rfl rfl
  · split
    · exact sound.of_taking phase rfl rfl rfl (by simp) rfl rfl
    · exact sound.of_taking phase rfl rfl rfl (by simp) rfl rfl

theorem step_sound {dispatch next : Dispatch} {move : Move} {events : List Event}
    (sound : dispatch.Sound) (possible : dispatch.step move = some (next, events)) :
    next.Sound := by
  cases move with
  | raise =>
      cases possible
      exact ⟨sound.listening, sound.idle, sound.unsent, sound.deserted, sound.drained⟩
  | worker index workerMove =>
      obtain ⟨⟨pool, poolEvents⟩, poolStep, equal⟩ := Option.map_eq_some_iff.mp possible
      cases equal
      have here : dispatch.pool.isDeserted ≠ true := by
        intro deserted
        rw [Pool.step_of_isDeserted deserted] at poolStep
        cases poolStep
      constructor
      · exact (Pool.step_frame poolStep).1.trans sound.listening
      · intro subscribing
        exact absurd (by simp [Pool.isDeserted, (sound.idle subscribing).2.1]) here
      · exact sound.unsent
      · intro late
        exact absurd (sound.deserted late) here
      · intro late
        have late : dispatch.phase.isDrained = true := late
        apply absurd (sound.deserted _) here
        cases phase : dispatch.phase <;> simp_all [Phase.isDrained, Phase.isDeserted]
  | proceed => exact proceed_sound sound possible
  | interrupt =>
      simp only [step] at possible
      split at possible
      · split at possible
        · cases possible
          exact sound.stop _
        · cases possible
      · cases possible
  | subscribed answer =>
      simp only [step] at possible
      split at possible
      next phase =>
        cases possible
        constructor
        · rfl
        · simp
        · exact fun _ => sound.unsent (by rw [phase]; rfl)
        · simp [Phase.isDeserted]
        · simp [Phase.isDrained]
      next error phase =>
        cases possible
        obtain ⟨_, workers, outcomes⟩ := sound.idle phase
        refine sound.of_pool_eq rfl ?_ ?_ ?_ ?_
        · simp
        · simp [Phase.isLast]
        · intro _
          simp [Pool.isDeserted, workers]
        · exact fun _ => outcomes
      next => cases possible
  | commit answer =>
      simp only [step] at possible
      split at possible
      next last message rest phase uncommitted =>
        have taken := accept_sound sound phase message rest answer
        rw [Option.some.inj possible] at taken
        exact taken
      next => cases possible
  | regulated answer =>
      simp only [step] at possible
      split at possible
      next full phase =>
        split at possible
        · cases possible
        · cases answer <;> cases possible <;>
            exact sound.of_taking phase rfl rfl rfl (by simp) rfl rfl
      next => cases possible
  | polled answer =>
      simp only [step] at possible
      split at possible
      next full phase =>
        split at possible
        · cases possible
        · have taken := receive_sound sound phase answer
          rw [Option.some.inj possible] at taken
          exact taken
      next => cases possible
  | closed answer =>
      simp only [step] at possible
      split at possible
      next phase =>
        cases possible
        refine sound.of_pool_eq rfl ?_ ?_ ?_ ?_
        · simp
        · simp [Phase.isLast]
        · exact fun _ => sound.deserted (by rw [phase]; rfl)
        · exact fun _ => sound.drained (by rw [phase]; rfl)
      next => cases possible

/-! ## Runs -/

/-- What a delivery loop can come to, with the history that brought it there. -/
inductive Reached (limits : Limits) : Dispatch → List Event → Prop
  | start : Reached limits (initial limits) []
  | step {dispatch next : Dispatch} {move : Move} {events later : List Event}
      (reached : Reached limits dispatch events)
      (possible : dispatch.step move = some (next, later)) :
      Reached limits next (events ++ later)

theorem steps_cons {dispatch last : Dispatch} {move : Move} {rest : List Move}
    {events : List Event} (run : dispatch.steps (move :: rest) = some (last, events)) :
    ∃ next now later, dispatch.step move = some (next, now) ∧
      next.steps rest = some (last, later) ∧ events = now ++ later := by
  simp only [steps] at run
  split at run
  · cases run
  next next now possible =>
    split at run
    · cases run
    next final later onward =>
      cases run
      exact ⟨next, now, later, possible, onward, rfl⟩

/-- A run of two parts is a run after a run. -/
theorem steps_append {dispatch last : Dispatch} {early late : List Move} {events : List Event}
    (run : dispatch.steps (early ++ late) = some (last, events)) :
    ∃ middle before after, dispatch.steps early = some (middle, before) ∧
      middle.steps late = some (last, after) ∧ events = before ++ after := by
  induction early generalizing dispatch events with
  | nil => exact ⟨dispatch, [], events, rfl, run, rfl⟩
  | cons move rest ih =>
      obtain ⟨next, now, later, possible, onward, equal⟩ := steps_cons run
      obtain ⟨middle, before, after, first, second, split_⟩ := ih onward
      refine ⟨middle, now ++ before, after, ?_, second, ?_⟩
      · simp [steps, possible, first]
      · rw [equal, split_, List.append_assoc]

theorem steps_trans {dispatch middle last : Dispatch} {early late : List Move}
    {before after : List Event} (first : dispatch.steps early = some (middle, before))
    (second : middle.steps late = some (last, after)) :
    dispatch.steps (early ++ late) = some (last, before ++ after) := by
  induction early generalizing dispatch before with
  | nil =>
      cases first
      exact second
  | cons move rest ih =>
      obtain ⟨next, now, later, possible, onward, rfl⟩ := steps_cons first
      simp [steps, possible, ih onward]

theorem Reached.steps {limits : Limits} {dispatch last : Dispatch} {moves : List Move}
    {events later : List Event} (reached : Reached limits dispatch events)
    (run : dispatch.steps moves = some (last, later)) :
    Reached limits last (events ++ later) := by
  induction moves generalizing dispatch events later with
  | nil =>
      cases run
      rw [List.append_nil]
      exact reached
  | cons move rest ih =>
      obtain ⟨next, now, after, possible, onward, equal⟩ := steps_cons run
      rw [equal, ← List.append_assoc]
      exact ih (reached.step possible) onward

/-- A run from the start ends in something reached. -/
theorem reached_of_steps {limits : Limits} {dispatch : Dispatch} {moves : List Move}
    {events : List Event} (run : (initial limits).steps moves = some (dispatch, events)) :
    Reached limits dispatch events := by
  have reached := Reached.start.steps run
  rwa [List.nil_append] at reached

theorem Reached.sound {limits : Limits} {dispatch : Dispatch} {events : List Event}
    (reached : Reached limits dispatch events) : dispatch.Sound := by
  induction reached with
  | start => exact sound_initial limits
  | step _ possible ih => exact step_sound ih possible

end Dispatch

end Scribe.Delivery
