import Mathlib.Data.List.Infix
import Mathlib.Data.List.Perm.Subperm
import Scribe.Proofs.Delivery.Backlog
import Scribe.Proofs.Delivery.Retained

/-!
# How much is retained

Only the intake holds the consumer back, and a message that is settled behind one that is not
takes no room there.  So what is retained has no bound in the limits: while one worker handles
the first message of a partition, others can settle any number of later ones, which the watermark
keeps.  It depends on how far delivery runs ahead of a message that is not settled, and on
nothing else.

A message that is not committed is open, or waits behind an open one, when the next message is
polled: where no commit is refused, the dispatcher polls only after it committed what was
released.  An open one is not settled, or was settled in the round of the poll, after the
dispatcher took the outcomes and so while no message was delivered.
-/

namespace Scribe.Delivery

open Scribe.Broker

/-! ## How far delivery runs ahead -/

namespace History

/-- The messages that were delivered after a message. -/
def since (message : Message) (events : List Event) : List Message :=
  ((delivered events).dropWhile fun other => decide (other ≠ message)).tail

/-- No message goes without an outcome that settles it while more than so many others are
delivered. -/
def SettlesWithin (limit : Nat) (events : List Event) : Prop :=
  ∀ early, early <+: events → ∀ message ∈ delivered early, message ∉ settled early →
    (since message early).length ≤ limit

instance (limit : Nat) (events : List Event) : Decidable (SettlesWithin limit events) :=
  decidable_of_iff (∀ early ∈ events.inits, ∀ message ∈ delivered early,
      message ∉ settled early → (since message early).length ≤ limit) <| by
    simp only [List.mem_inits]
    rfl

theorem SettlesWithin.left {limit : Nat} {early late : List Event}
    (timely : SettlesWithin limit (early ++ late)) : SettlesWithin limit early :=
  fun first begins => timely first (begins.trans (List.prefix_append early late))

theorem since_eq {message : Message} {events : List Event} {front back : List Message}
    (split_ : delivered events = front ++ message :: back) (new : message ∉ front) :
    since message events = back := by
  have passed : ∀ other ∈ front, decide (other ≠ message) = true := by
    intro other member
    rw [decide_eq_true_iff]
    rintro rfl
    exact new member
  rw [since, split_, List.dropWhile_append_of_pos passed]
  simp

theorem since_of_nodup {message : Message} {events : List Event} {front back : List Message}
    (nodup : (delivered events).Nodup) (split_ : delivered events = front ++ message :: back) :
    since message events = back := by
  rw [split_, List.nodup_middle, List.nodup_cons] at nodup
  exact since_eq split_ fun there => nodup.1 (List.mem_append_left _ there)

theorem since_append {message : Message} {early : List Event} (late : List Event)
    (member : message ∈ delivered early) :
    since message (early ++ late) = since message early ++ delivered late := by
  obtain ⟨front, back, split_, new⟩ := List.eq_append_cons_of_mem member
  rw [since_eq split_ new]
  refine since_eq ?_ new
  rw [delivered_append, split_]
  simp

/-- What came after a message came after those before it as well. -/
theorem since_length_le {message other : Message} {events : List Event}
    (nodup : (delivered events).Nodup) (before : message ∈ since other events)
    (member : other ∈ delivered events) :
    (since message events).length ≤ (since other events).length := by
  obtain ⟨front, back, split_, new⟩ := List.eq_append_cons_of_mem member
  rw [since_eq split_ new] at before ⊢
  obtain ⟨between, rest, rfl, later⟩ := List.eq_append_cons_of_mem before
  have whole : delivered events = (front ++ other :: between) ++ message :: rest := by
    rw [split_]
    simp
  rw [since_of_nodup nodup whole, List.length_append, List.length_cons]
  omega

/-- If delivery never runs further ahead of a message that is not committed, there are not more
of these. -/
theorem length_delivered_le {limit : Nat} {events : List Event}
    (nodup : (delivered events).Nodup)
    (recent : ∀ message ∈ delivered events, message ∉ committed events →
      (since message events).length ≤ limit) :
    (delivered events).length ≤ (committed events).length + (limit + 1) := by
  let closed (message : Message) : Bool := decide (message ∈ committed events)
  have split_ := List.takeWhile_append_dropWhile (p := closed) (l := delivered events)
  have inside : (delivered events).takeWhile closed ⊆ committed events := by
    intro message member
    have isClosed : closed message = true := List.mem_takeWhile_imp member
    exact of_decide_eq_true isClosed
  have front := (List.subperm_of_subset
    (nodup.sublist (List.takeWhile_sublist closed)) inside).length_le
  have first := List.head?_dropWhile_not closed (delivered events)
  cases rest : (delivered events).dropWhile closed with
  | nil =>
      rw [rest, List.append_nil] at split_
      rw [split_] at front
      omega
  | cons message back =>
      rw [rest] at split_ first
      have pending : message ∉ committed events := of_decide_eq_false first
      have ahead := recent message (split_ ▸ by simp) pending
      rw [since_of_nodup nodup split_.symm] at ahead
      rw [← split_, List.length_append, List.length_cons]
      omega

end History

namespace Watermark

/-- The ledger of a partition is the one that stands there. -/
theorem WF.ledger_of_mem {watermark : Watermark} (wf : watermark.WF) {entry : Place × Ledger}
    (member : entry ∈ watermark.ledgers) : watermark.ledger entry.1 = entry.2 := by
  obtain ⟨front, back, split_⟩ := List.append_of_mem member
  have places := wf.places_nodup
  rw [split_, List.map_append, List.map_cons] at places
  have apart : ∀ other ∈ front, other.1 ≠ entry.1 := fun other inFront =>
    (List.nodup_append.mp places).2.2 other.1 (List.mem_map_of_mem inFront) entry.1
      List.mem_cons_self
  rw [ledger, split_]
  clear split_ places
  induction front with
  | nil => simp [find?]
  | cons other rest ih =>
      rw [List.cons_append, find?, if_neg (apart other List.mem_cons_self)]
      exact ih fun later inRest => apart later (List.mem_cons_of_mem _ inRest)

end Watermark

namespace Dispatch

open History

/-! ## Where messages wait that are not committed -/

/-- A finished message that waits came after one of its partition that is not settled. -/
theorem Orderly.behind {dispatch : Dispatch} {events : List Event} {message : Message}
    (orderly : Orderly dispatch events) (custody : Custody dispatch events)
    (ascending : Ascending (delivered events))
    (waits : message ∈ dispatch.watermark.finished) :
    ∃ other ∈ dispatch.unclosed events, other ∈ delivered events ∧
      message ∈ since other events := by
  obtain ⟨entry, inLedgers, inFinished⟩ := List.mem_flatMap.mp waits
  rw [← custody.watermark.ledger_of_mem inLedgers, orderly.ledgers] at inFinished
  obtain ⟨inOpen, finished⟩ := List.mem_filter.mp inFinished
  have split_ := List.takeWhile_append_dropWhile (p := dispatch.isClosed events)
    (l := inPlace entry.1 (delivered events))
  have first := List.head?_dropWhile_not (dispatch.isClosed events)
    (inPlace entry.1 (delivered events))
  cases rest : (inPlace entry.1 (delivered events)).dropWhile (dispatch.isClosed events) with
  | nil =>
      rw [rest] at inOpen
      cases inOpen
  | cons other back =>
      rw [rest] at split_ first inOpen
      have unclosed : other ∈ dispatch.unclosed events := by
        simpa [isClosed] using first
      have behind : message ∈ back := by
        rcases List.mem_cons.mp inOpen with rfl | later
        · cases finished.symm.trans first
        · exact later
      obtain ⟨early, late, whole, _, openPart⟩ := List.filter_eq_append_iff.mp split_.symm
      obtain ⟨between, after, rfl, _, _, lateBack⟩ := List.filter_eq_cons_iff.mp openPart
      have place : delivered events = (early ++ between) ++ other :: after := by
        rw [whole]
        simp
      refine ⟨other, unclosed, place ▸ by simp, ?_⟩
      rw [since_of_nodup ascending.distinct.nodup place]
      rw [← lateBack] at behind
      exact (List.mem_filter.mp behind).1

theorem Reached.backlog_disjoint {limits : Limits} {dispatch : Dispatch} {events : List Event}
    (reached : Reached limits dispatch events) (nodup : (delivered events).Nodup) :
    (dispatch.backlog events).Disjoint (settled events) :=
  (List.nodup_append'.mp (reached.balance.nodup_iff.mpr nodup)).2.2

/-- What a worker is busy with is not settled. -/
theorem Reached.unsettled_of_busy {limits : Limits} {dispatch : Dispatch}
    {events : List Event} {message : Message} (reached : Reached limits dispatch events)
    (nodup : (delivered events).Nodup) (busy : message ∈ dispatch.pool.busy) :
    message ∉ settled events :=
  reached.backlog_disjoint nodup (by simp [backlog, busy])

/-- A message that is settled and still open has an outcome that waits to be taken. -/
theorem Reached.outcome_of_settled {limits : Limits} {dispatch : Dispatch}
    {events : List Event} {message : Message} (reached : Reached limits dispatch events)
    (nodup : (delivered events).Nodup) (member : message ∈ dispatch.unclosed events)
    (done : message ∈ settled events) :
    ∃ outcome ∈ dispatch.pool.outcomes, outcome.commits = true ∧ outcome.message = message := by
  have apart : message ∉ dispatch.backlog events :=
    fun there => reached.backlog_disjoint nodup there done
  simp only [backlog, unclosed, unsettled, List.mem_append, not_or] at apart member
  obtain ⟨⟨⟨notWaiting, notBusy⟩, notReturning⟩, notCrashed⟩ := apart
  simp only [notWaiting, notBusy, notCrashed, false_or, or_false] at member
  obtain ⟨outcome, reported, rfl⟩ := List.mem_map.mp member
  refine ⟨outcome, reported, ?_, rfl⟩
  by_contra open_
  apply notReturning
  apply List.mem_map_of_mem
  simpa [reported] using open_

/-! ## Rounds of the dispatcher -/

/-- An outcome that waits did so before, or a worker has just reported it. -/
theorem Passes.outcome_of_mem {before after : Dispatch} {later : List Event}
    (passes : Passes before after later) {outcome : Outcome}
    (member : outcome ∈ after.pool.outcomes) :
    outcome ∈ before.pool.outcomes ∨ outcome.message ∈ before.pool.busy := by
  cases passes with
  | finish reported waiting busy outcomes =>
      rw [outcomes] at member
      rcases List.mem_append.mp member with earlier | last
      · exact Or.inl earlier
      · cases List.mem_singleton.mp last
        exact Or.inr (busy.mem_iff.mpr List.mem_cons_self)
  | redeliver taken unsettled waiting busy outcomes =>
      exact Or.inl (outcomes ▸ List.mem_cons_of_mem _ member)
  | settle taken settled waiting busy outcomes =>
      exact Or.inl (outcomes ▸ List.mem_cons_of_mem _ member)
  | quiet _ _ _ outcomes => exact Or.inl (outcomes ▸ member)
  | deliver _ _ _ outcomes => exact Or.inl (outcomes ▸ member)
  | start _ _ _ outcomes => exact Or.inl (outcomes ▸ member)
  | crash _ _ _ outcomes => exact Or.inl (outcomes ▸ member)
  | commit _ _ _ outcomes => exact Or.inl (outcomes ▸ member)
  | refuse _ _ _ outcomes => exact Or.inl (outcomes ▸ member)

end Dispatch

/-- Whether the dispatcher has committed in a round what it could, and polls in it, if at all,
later. -/
def Phase.isCommitted : Phase → Bool
  | .measuring => true
  | .regulating _ => true
  | .choosing _ => true
  | _ => false

namespace Dispatch

open History

/-- Where no commit is refused, the dispatcher goes on from committing when nothing is left to
commit, and releases nothing until it polls. -/
theorem step_isCommitted {dispatch next : Dispatch} {move : Move} {events : List Event}
    (possible : dispatch.step move = some (next, events))
    (accepted : ∀ error, move ≠ .commit (.error error))
    (committed : next.phase.isCommitted = true) :
    next.uncommitted = [] ∨
      dispatch.phase.isCommitted = true ∧ next.uncommitted = dispatch.uncommitted := by
  cases move with
  | raise =>
      cases possible
      exact Or.inr ⟨committed, rfl⟩
  | worker index workerMove =>
      obtain ⟨⟨pool, poolEvents⟩, poolStep, equal⟩ := Option.map_eq_some_iff.mp possible
      cases equal
      exact Or.inr ⟨committed, rfl⟩
  | proceed =>
      change dispatch.proceed = _ at possible
      unfold proceed at possible
      cases phase : dispatch.phase with
      | committing last =>
          simp only [phase] at possible
          split at possible
          next empty =>
            cases possible
            exact Or.inl empty
          next => cases possible
      | measuring =>
          simp only [phase] at possible
          cases possible
          exact Or.inr ⟨rfl, rfl⟩
      | regulating full =>
          simp only [phase] at possible
          split at possible <;> cases possible
          exact Or.inr ⟨rfl, rfl⟩
      | draining last =>
          simp only [phase] at possible
          split at possible
          next => cases possible; cases committed
          next =>
            simp only [takeOutcome] at possible
            split at possible <;> cases possible <;>
              simp [phase, Phase.isCommitted] at committed
      | _ =>
          simp only [phase] at possible
          (repeat' split at possible) <;> cases possible <;> cases committed
  | commit answer =>
      cases answer with
      | error error => exact absurd rfl (accepted error)
      | ok _ =>
          simp only [step] at possible
          split at possible
          next last message rest phase uncommitted =>
            cases possible
            cases committed.symm.trans (congrArg Phase.isCommitted phase)
          next => cases possible
  | regulated answer =>
      simp only [step] at possible
      split at possible
      next full phase =>
        split at possible
        · cases possible
        · cases answer <;> cases possible <;> exact Or.inr ⟨by rw [phase]; rfl, rfl⟩
      next => cases possible
  | polled answer =>
      simp only [step, receive] at possible
      (repeat' split at possible) <;> cases possible <;> cases committed
  | _ =>
      simp only [step] at possible
      (repeat' split at possible) <;> cases possible <;> cases committed

/-! ## Runs without refused commits -/

/-- How far delivery has run ahead of what is not committed, and of what was settled in a
round after the dispatcher took the outcomes. -/
structure Recent (limit : Nat) (dispatch : Dispatch) (events : List Event) : Prop where
  retained : ∀ message ∈ delivered events, message ∉ committed events →
    (since message events).length ≤ limit + 1
  reported : dispatch.phase.isFresh = true → ∀ outcome ∈ dispatch.pool.outcomes,
    outcome.commits = true → (since outcome.message events).length ≤ limit
  released : dispatch.phase.isCommitted = true → dispatch.uncommitted = []

theorem recent_initial (limit : Nat) (limits : Limits) : Recent limit (initial limits) [] where
  retained := by
    intro message member
    cases member
  reported := by
    intro fresh
    cases fresh
  released := by
    intro committed
    cases committed

/-- When one more message is delivered, delivery has not run too far ahead of an open one: if
that is not settled it had its time, and if it is then since this round. -/
theorem Recent.unclosed {limit : Nat} {limits : Limits} {dispatch : Dispatch}
    {events : List Event} {full : Bool} {message other : Message}
    (recent : Recent limit dispatch events) (reached : Reached limits dispatch events)
    (phase : dispatch.phase = .choosing full) (distinct : Distinct (delivered events))
    (timely : SettlesWithin limit (events ++ [.polled, .received message]))
    (member : other ∈ dispatch.unclosed events) :
    (since other (events ++ [.polled, .received message])).length ≤ limit + 1 := by
  have brought : other ∈ delivered events :=
    (reached.custody distinct).mem_delivered (by simp [holdings, member])
  by_cases done : other ∈ settled events
  · obtain ⟨outcome, waits, commits, rfl⟩ :=
      reached.outcome_of_settled distinct.nodup member done
    have reported := recent.reported (by rw [phase]; rfl) outcome waits commits
    rw [since_append _ brought, List.length_append]
    exact Nat.add_le_add_right reported 1
  · have pending : other ∉ settled (events ++ [.polled, .received message]) := by
      rw [settled_append]
      simpa [settled, Event.settled?] using done
    have inTime := timely _ (List.prefix_refl _) other (by simp [brought]) pending
    exact Nat.le_succ_of_le inTime

theorem Recent.received {limit : Nat} {limits : Limits} {dispatch : Dispatch}
    {events : List Event} {full : Bool} {message : Message}
    (recent : Recent limit dispatch events) (reached : Reached limits dispatch events)
    (phase : dispatch.phase = .choosing full)
    (ascending : Ascending (delivered (events ++ [.polled, .received message])))
    (timely : SettlesWithin limit (events ++ [.polled, .received message])) :
    ∀ other ∈ delivered (events ++ [.polled, .received message]),
      other ∉ committed (events ++ [.polled, .received message]) →
      (since other (events ++ [.polled, .received message])).length ≤ limit + 1 := by
  have all : delivered (events ++ [.polled, .received message]) =
      delivered events ++ [message] := delivered_append _ _
  have nodup := ascending.distinct.nodup
  have earlier : Ascending (delivered events) := ascending_delivered_left ascending
  have custody := reached.custody earlier.distinct
  intro other member pending
  rw [all] at member
  rcases List.mem_append.mp member with old | last
  · have uncommitted : other ∉ committed events := by
      rw [committed_append] at pending
      exact fun there => pending (List.mem_append_left _ there)
    have none := recent.released (by rw [phase]; rfl)
    have held := custody.conserved.mem_iff.mp old
    simp only [holdings, none, List.append_nil, List.mem_append, uncommitted, or_false] at held
    -- Nothing is released at a poll, so an old message is open or waits behind an open one.
    rcases held with open_ | waits
    · exact recent.unclosed reached phase earlier.distinct timely open_
    · obtain ⟨first, open_, before, behind⟩ :=
        (reached.orderly earlier).behind custody earlier waits
      have bound := recent.unclosed reached phase earlier.distinct timely open_
      have still : other ∈ since first (events ++ [.polled, .received message]) := by
        rw [since_append _ before]
        exact List.mem_append_left _ behind
      exact (since_length_le nodup still (by simp [before])).trans bound
  · cases List.mem_singleton.mp last
    rw [since_of_nodup nodup all]
    exact Nat.zero_le _

theorem Recent.step {limit : Nat} {limits : Limits} {dispatch next : Dispatch} {move : Move}
    {events later : List Event} (recent : Recent limit dispatch events)
    (reached : Reached limits dispatch events)
    (possible : dispatch.step move = some (next, later))
    (accepted : ∀ error, move ≠ .commit (.error error))
    (ascending : Ascending (delivered (events ++ later)))
    (timely : SettlesWithin limit (events ++ later)) : Recent limit next (events ++ later) := by
  have earlier : Ascending (delivered events) := ascending_delivered_left ascending
  have custody := reached.custody earlier.distinct
  refine ⟨?_, ?_, ?_⟩
  · rcases step_delivered possible with nothing | ⟨message, full, rfl, phase, _, _⟩
    · intro message member pending
      rw [delivered_append, nothing, List.append_nil] at member
      rw [committed_append] at pending
      rw [since_append _ member, nothing, List.append_nil]
      exact recent.retained message member fun there => pending (List.mem_append_left _ there)
    · exact recent.received reached phase ascending timely
  · intro fresh outcome waits commits
    have nothing : delivered later = [] := by
      rcases step_delivered possible with nothing | ⟨message, full, _, _, _, offering⟩
      · exact nothing
      · rw [offering] at fresh
        cases fresh
    rcases step_isFresh possible fresh with ⟨before, _⟩ | ⟨_, empty, rfl, _⟩
    · rcases (step_passes reached.sound possible).outcome_of_mem waits with waited | busy
      · have brought : outcome.message ∈ delivered events := by
          apply custody.mem_delivered
          have held := List.mem_map_of_mem (f := Outcome.message) waited
          simp only [holdings, Dispatch.unclosed, unsettled, List.mem_append]
          tauto
        rw [since_append _ brought, nothing, List.append_nil]
        exact recent.reported before outcome waited commits
      · have brought : outcome.message ∈ delivered events := by
          apply custody.mem_delivered
          simp [holdings, Dispatch.unclosed, unsettled, busy]
        rw [since_append _ brought, nothing, List.append_nil]
        exact timely events (List.prefix_append _ _) _ brought
          (reached.unsettled_of_busy earlier.distinct.nodup busy)
    · rw [show ({ dispatch with phase := .committing false } : Dispatch).pool.outcomes = [] from
        empty] at waits
      cases waits
  · intro committed_
    rcases step_isCommitted possible accepted committed_ with empty | ⟨before, same⟩
    · exact empty
    · exact same.trans (recent.released before)

theorem Recent.steps {limit : Nat} {limits : Limits} {dispatch last : Dispatch}
    {moves : List Move} {events later : List Event} (recent : Recent limit dispatch events)
    (reached : Reached limits dispatch events) (run : dispatch.steps moves = some (last, later))
    (accepted : ∀ error, .commit (.error error) ∉ moves)
    (ascending : Ascending (delivered (events ++ later)))
    (timely : SettlesWithin limit (events ++ later)) : Recent limit last (events ++ later) := by
  induction moves generalizing dispatch events later with
  | nil =>
      cases run
      rw [List.append_nil]
      exact recent
  | cons move rest ih =>
      obtain ⟨next, now, after, possible, onward, rfl⟩ := steps_cons run
      rw [← List.append_assoc] at ascending timely ⊢
      have risen : Ascending (delivered (events ++ now)) := ascending_delivered_left ascending
      have stepped := recent.step reached possible
        (fun error same => accepted error (same ▸ List.mem_cons_self)) risen timely.left
      exact ih stepped (reached.step possible) onward
        (fun error member => accepted error (List.mem_cons_of_mem _ member)) ascending timely

end Dispatch

open Dispatch History

/-- What is retained is what was delivered and is not committed.  Where every commit is
accepted and no message goes without an outcome that settles it while more than so many
others are delivered, at most two messages more than that are retained, however many are
delivered and whatever the workers do. -/
theorem retention_bounded (limits : Limits) (limit : Nat) (moves : List Move)
    (dispatch : Dispatch) (events : List Event)
    (run : (initial limits).steps moves = some (dispatch, events))
    (accepted : ∀ error, .commit (.error error) ∉ moves)
    (ascending : Ascending (delivered events)) (timely : SettlesWithin limit events) :
    dispatch.retained + (committed events).length = (delivered events).length ∧
      dispatch.retained ≤ limit + 2 := by
  have balance := (reached_of_steps run).retained_add ascending
  have recent := (recent_initial limit limits).steps .start run accepted ascending timely
  rw [List.nil_append] at recent
  have few := length_delivered_le ascending.distinct.nodup recent.retained
  exact ⟨balance, by omega⟩

/-- The bound is reached by two workers: the second message is delivered while the first one
is handled, whose outcome comes too late to be taken before the third message is polled. -/
theorem retention_bounded_late :
    let message (offset : Int) : Message := ⟨"stt.jobs", 0, offset, none, .empty, [], ""⟩
    let moves : List Move :=
      [.subscribed (.ok ()), .worker 0 .look, .worker 1 .look,
        .proceed, .proceed, .proceed, .proceed, .proceed, .polled (.ok (some (message 0))),
        .proceed, .worker 0 .take,
        .proceed, .proceed, .proceed, .proceed, .proceed, .polled (.ok (some (message 1))),
        .proceed, .worker 1 .take, .proceed, .proceed, .proceed,
        .worker 0 (.finish .completed), .proceed, .proceed, .polled (.ok (some (message 2)))]
    ∃ dispatch events, (initial { concurrency := 2 }).steps moves = some (dispatch, events) ∧
      (∀ error, .commit (.error error) ∉ moves) ∧ Ascending (delivered events) ∧
      SettlesWithin 1 events ∧ dispatch.retained = 3 ∧
      (dispatch.retained + (committed events).length = (delivered events).length ∧
        dispatch.retained ≤ 1 + 2) := by
  intro message moves
  have accepted : ∀ error, .commit (.error error) ∉ moves := by simp [moves]
  refine ⟨_, _, rfl, accepted, by decide, by decide, by decide, ?_⟩
  exact retention_bounded { concurrency := 2 } 1 moves _ _ rfl accepted (by decide) (by decide)

/-! ## A message that stays unsettled -/

namespace History

/-- The messages of one partition, from its start. -/
def numbered (offset : Nat) : Message := ⟨"stt.jobs", 0, offset, none, .empty, [], ""⟩

theorem ascending_numbered (count : Nat) : Ascending ((List.range count).map numbered) := by
  apply List.pairwise_map.mpr
  apply List.pairwise_lt_range.imp
  intro earlier later less _
  exact Int.ofNat_lt.mpr less

theorem inPlace_numbered (count : Nat) :
    inPlace (Place.of (numbered 0)) ((List.range count).map numbered) =
      (List.range count).map numbered := by
  apply inPlace_of_own
  intro message member
  obtain ⟨offset, _, rfl⟩ := List.mem_map.mp member
  rfl

end History

namespace Dispatch

/-- The second worker handles the first message, the first one waits for another, and the
dispatcher commits what is released. -/
def holding (limits : Limits) (watermark : Watermark) (uncommitted : List Message) : Dispatch :=
  { limits
    phase := .committing false
    watermark
    uncommitted
    pool := {
      capacity := max limits.capacity 1
      workers :=
        .waiting :: .busy (numbered 0) :: List.replicate (limits.concurrency - 2) .looking } }

/-- Two workers get ready, and the second one takes the first message. -/
def opening : List Move :=
  [.subscribed (.ok ()), .worker 0 .look, .worker 1 .look,
    .proceed, .proceed, .proceed, .proceed, .proceed, .polled (.ok (some (numbered 0))),
    .proceed, .worker 1 .take, .proceed, .proceed]

/-- A message is polled, the first worker completes it, and the dispatcher takes the
outcome. -/
def passing (message : Message) : List Move :=
  [.proceed, .proceed, .proceed, .polled (.ok (some message)), .proceed,
    .worker 0 .take, .worker 0 (.finish .completed), .worker 0 .look,
    .proceed, .proceed, .proceed]

theorem steps_opening {limits : Limits} (several : 2 ≤ limits.concurrency) :
    (initial limits).steps opening =
      some (holding limits (({} : Watermark).track (numbered 0)) [],
        [.depthSeen 0, .polled, .received (numbered 0), .started (numbered 0)]) := by
  have crew : max limits.concurrency 1 = limits.concurrency - 2 + 1 + 1 := by omega
  simp [initial, holding, opening, steps, step, proceed, receive, afterCommit, Pool.spawn, crew,
    List.replicate_succ, Pool.step, Pool.setWorker, Pool.isFull, Pool.depth, Pool.isDeserted,
    Flow.evaluate]

theorem steps_passing (limits : Limits) (watermark : Watermark) (message : Message) :
    (holding limits watermark []).steps (passing message) =
      some (holding limits ((watermark.track message).complete message).2
          ((watermark.track message).complete message).1,
        [.depthSeen 0, .polled, .received message, .started message,
          .finished ⟨message, .completed⟩]) := by
  simp [holding, passing, steps, step, proceed, receive, takeOutcome, afterCommit, Pool.step,
    Pool.setWorker, Pool.isFull, Pool.depth, Pool.isDeserted, Flow.evaluate, Outcome.commits,
    Disposition.settles]

/-- A run in which the second worker handles the first message all the time, while so many
are delivered, and nobody refuses the dispatcher anything. -/
structure Stalled (limits : Limits) (count : Nat) (moves : List Move) (dispatch : Dispatch)
    (events : List Event) : Prop where
  run : (initial limits).steps moves = some (dispatch, events)
  accepted : ∀ error, .commit (.error error) ∉ moves
  obeyed : ∀ error, .regulated (.error error) ∉ moves
  held : ∃ watermark uncommitted, dispatch = holding limits watermark uncommitted
  delivered : delivered events = (List.range count).map numbered
  unpaused : events.filterMap Event.paused? = []

theorem Stalled.ascending {limits : Limits} {count : Nat} {moves : List Move}
    {dispatch : Dispatch} {events : List Event}
    (stalled : Stalled limits count moves dispatch events) :
    Ascending (History.delivered events) := by
  rw [stalled.delivered]
  exact ascending_numbered count

/-- Nothing was released, as the first message is still being handled. -/
theorem Stalled.none_released {limits : Limits} {count : Nat} {moves : List Move}
    {dispatch : Dispatch} {events : List Event}
    (stalled : Stalled limits (count + 1) moves dispatch events) :
    committed events = [] ∧ dispatch.uncommitted = [] := by
  have reached := reached_of_steps stalled.run
  have custody := reached.custody stalled.ascending.distinct
  have first : (inPlace (Place.of (numbered 0)) (History.delivered events)).head? =
      some (numbered 0) := by
    rw [stalled.delivered, inPlace_numbered, List.range_succ_eq_map]
    rfl
  have handled : numbered 0 ∈ dispatch.unclosed events := by
    obtain ⟨watermark, uncommitted, rfl⟩ := stalled.held
    simp [unclosed, unsettled, holding, Pool.busy, Worker.message?]
  have none := (reached.orderly stalled.ascending).none_released first handled
  have own : ∀ message ∈ committed events ++ dispatch.uncommitted,
      Place.of message = Place.of (numbered 0) := by
    intro message member
    have brought : message ∈ History.delivered events := by
      apply custody.mem_delivered
      simp only [holdings, List.mem_append] at member ⊢
      tauto
    rw [stalled.delivered] at brought
    obtain ⟨offset, _, rfl⟩ := List.mem_map.mp brought
    rfl
  rw [inPlace_of_own own] at none
  exact List.append_eq_nil_iff.mp none

theorem stalled_opening {limits : Limits} (several : 2 ≤ limits.concurrency) :
    ∃ dispatch events, Stalled limits 1 opening dispatch events := by
  refine ⟨_, _, steps_opening several, ?_, ?_, ⟨_, _, rfl⟩, rfl, rfl⟩
  · simp [opening]
  · simp [opening]

theorem Stalled.passing {limits : Limits} {count : Nat} {moves : List Move}
    {dispatch : Dispatch} {events : List Event}
    (stalled : Stalled limits (count + 1) moves dispatch events) :
    ∃ next later, Stalled limits (count + 2)
      (moves ++ Dispatch.passing (numbered (count + 1))) next later := by
  have nothing := stalled.none_released.2
  obtain ⟨watermark, uncommitted, rfl⟩ := stalled.held
  obtain rfl : uncommitted = [] := nothing
  refine ⟨_, _, steps_trans stalled.run (steps_passing limits watermark _), ?_, ?_,
    ⟨_, _, rfl⟩, ?_, ?_⟩
  · simp [stalled.accepted, Dispatch.passing]
  · simp [stalled.obeyed, Dispatch.passing]
  · rw [delivered_append, stalled.delivered, List.range_succ (n := count + 1), List.map_append]
    rfl
  · rw [List.filterMap_append, stalled.unpaused]
    rfl

theorem exists_stalled {limits : Limits} (several : 2 ≤ limits.concurrency) (count : Nat) :
    ∃ moves dispatch events, Stalled limits (count + 1) moves dispatch events := by
  induction count with
  | zero => exact ⟨_, stalled_opening several⟩
  | succ count ih =>
      obtain ⟨moves, dispatch, events, stalled⟩ := ih
      exact ⟨_, stalled.passing⟩

/-- All that was delivered since then is retained. -/
theorem Stalled.retained {limits : Limits} {count : Nat} {moves : List Move}
    {dispatch : Dispatch} {events : List Event}
    (stalled : Stalled limits (count + 1) moves dispatch events) :
    dispatch.retained = count + 1 := by
  have balance := (reached_of_steps stalled.run).retained_add stalled.ascending
  rw [stalled.none_released.1, stalled.delivered] at balance
  simpa using balance

end Dispatch

/-- No number bounds what two workers retain: while one of them handles the first message,
the other one completes any number of messages, and all are retained, though no commit is
refused, no pause fails and the offsets rise. -/
theorem retention_unbounded :
    ¬ ∀ limits : Limits, ∃ bound : Nat, ∀ moves dispatch events,
      (initial limits).steps moves = some (dispatch, events) →
      (∀ error, .commit (.error error) ∉ moves) →
      (∀ error, .regulated (.error error) ∉ moves) →
      HeedsPauses events → Ascending (delivered events) → dispatch.retained ≤ bound := by
  intro bounded
  have several : 2 ≤ ({ concurrency := 2 } : Limits).concurrency := Nat.le_refl 2
  obtain ⟨bound, least⟩ := bounded { concurrency := 2 }
  obtain ⟨moves, dispatch, events, stalled⟩ := exists_stalled several bound
  have atMost := least moves dispatch events stalled.run stalled.accepted stalled.obeyed
    (heedsPauses_of_unpaused stalled.unpaused) stalled.ascending
  rw [stalled.retained] at atMost
  exact Nat.not_succ_le_self bound atMost

end Scribe.Delivery
