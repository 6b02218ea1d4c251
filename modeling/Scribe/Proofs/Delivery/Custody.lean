import Scribe.Proofs.Delivery.Passage

/-!
# Every message is with one holder

A delivered message waits, is being handled, has an outcome that was not taken, was lost
with its worker, is held back by the watermark, was released, or was committed.  Nothing
else can become of it, and as no message is delivered twice it is with one holder at a
time.  What is in flight for the watermark is what no outcome has settled.
-/

namespace Scribe.Delivery

open Scribe.Broker

namespace Dispatch

open History

/-- The delivered messages that the watermark waits for. -/
def unclosed (dispatch : Dispatch) (events : List Event) : List Message :=
  dispatch.unsettled ++ crashed events

/-- The messages of all holders. -/
def holdings (dispatch : Dispatch) (events : List Event) : List Message :=
  dispatch.unclosed events ++ dispatch.watermark.finished ++ dispatch.uncommitted ++
    committed events

/-- Who holds the delivered messages. -/
structure Custody (dispatch : Dispatch) (events : List Event) : Prop where
  conserved : (delivered events).Perm (dispatch.holdings events)
  inFlight : ∀ place offset, offset ∈ dispatch.watermark.inFlight place ↔
    ∃ message ∈ dispatch.unclosed events, position message = (place, offset)
  watermark : dispatch.watermark.WF

theorem custody_initial (limits : Limits) : Custody (initial limits) [] where
  conserved := List.Perm.refl _
  inFlight := by
    intro place offset
    constructor
    · intro member
      cases member
    · rintro ⟨message, member, _⟩
      cases member
  watermark := Watermark.wf_empty

/-- As no delivered message has the offset of another, no two holdings have. -/
theorem Custody.distinct {dispatch : Dispatch} {events : List Event}
    (custody : Custody dispatch events) (distinct : Distinct (delivered events)) :
    Distinct (dispatch.holdings events) :=
  (custody.conserved.map position).nodup_iff.mp distinct

theorem Custody.mem_delivered {dispatch : Dispatch} {events : List Event}
    (custody : Custody dispatch events) {message : Message}
    (held : message ∈ dispatch.holdings events) : message ∈ delivered events :=
  custody.conserved.mem_iff.mpr held

/-- The holders of the messages that nothing has settled are apart, and no other holder
has one of these messages. -/
structure Separate (dispatch : Dispatch) (events : List Event) : Prop where
  waiting : dispatch.waiting.Nodup
  busy : dispatch.pool.busy.Nodup
  outcomes : (dispatch.pool.outcomes.map Outcome.message).Nodup
  waiting_busy : dispatch.waiting.Disjoint dispatch.pool.busy
  waiting_outcomes : dispatch.waiting.Disjoint (dispatch.pool.outcomes.map Outcome.message)
  busy_outcomes : dispatch.pool.busy.Disjoint (dispatch.pool.outcomes.map Outcome.message)
  finished : dispatch.unsettled.Disjoint dispatch.watermark.finished
  uncommitted : dispatch.unsettled.Disjoint dispatch.uncommitted
  committed : dispatch.unsettled.Disjoint (committed events)

theorem Custody.separate {dispatch : Dispatch} {events : List Event}
    (custody : Custody dispatch events) (distinct : Distinct (delivered events)) :
    Separate dispatch events := by
  have once := (custody.distinct distinct).nodup
  unfold holdings unclosed at once
  obtain ⟨released, _, fromCommitted⟩ := List.nodup_append'.mp once
  obtain ⟨held, _, fromUncommitted⟩ := List.nodup_append'.mp released
  obtain ⟨open_, _, fromFinished⟩ := List.nodup_append'.mp held
  obtain ⟨unsettled_, _, _⟩ := List.nodup_append'.mp open_
  have isUnclosed : ∀ message ∈ dispatch.unsettled,
      message ∈ dispatch.unsettled ++ crashed events := by
    intro message member
    exact List.mem_append_left _ member
  obtain ⟨assigned, outcomes, fromOutcomes⟩ := List.nodup_append'.mp unsettled_
  obtain ⟨waiting, busy, fromBusy⟩ := List.nodup_append'.mp assigned
  constructor
  · exact waiting
  · exact busy
  · exact outcomes
  · exact fromBusy
  · exact fun message waits => fromOutcomes (List.mem_append_left _ waits)
  · exact fun message works => fromOutcomes (List.mem_append_right _ works)
  · exact fun message member => fromFinished (isUnclosed message member)
  · exact fun message member =>
      fromUncommitted (List.mem_append_left _ (isUnclosed message member))
  · exact fun message member =>
      fromCommitted (List.mem_append_left _ (List.mem_append_left _ (isUnclosed message member)))

/-! ## What a step means for the watermark -/

/-- A step leaves the watermark alone, lets it wait for one message more, or for one
less. -/
inductive Reckoning (before after : Dispatch) (events later : List Event) : Prop
  | same
      (unclosed : (after.unclosed (events ++ later)).Perm (before.unclosed events))
      (nothing : delivered later = [])
      (watermark : after.watermark = before.watermark)
      (uncommitted : committed later ++ after.uncommitted = before.uncommitted)
  | opened (message : Message)
      (unclosed : (after.unclosed (events ++ later)).Perm (message :: before.unclosed events))
      (received : delivered later = [message])
      (watermark : after.watermark = before.watermark.track message)
      (uncommitted : committed later ++ after.uncommitted = before.uncommitted)
      (none : committed later = [])
  | closed (message : Message)
      (unclosed : (before.unclosed events).Perm (message :: after.unclosed (events ++ later)))
      (nothing : delivered later = [])
      (watermark : after.watermark = (before.watermark.complete message).2)
      (uncommitted : after.uncommitted =
        before.uncommitted ++ (before.watermark.complete message).1)
      (none : committed later = [])

/-- Messages that only change their places among those that are not settled. -/
theorem unclosed_perm {before after : Dispatch} {events later : List Event}
    (unsettled : after.unsettled.Perm before.unsettled) (nothing : crashed later = []) :
    (after.unclosed (events ++ later)).Perm (before.unclosed events) := by
  rw [unclosed, unclosed, crashed_append, nothing, List.append_nil]
  exact unsettled.append_right _

theorem Passes.reckoning {before after : Dispatch} {later : List Event}
    (passes : Passes before after later) (events : List Event) :
    Reckoning before after events later := by
  cases passes with
  | quiet silent waiting busy outcomes watermark uncommitted =>
      refine .same ?_ (delivered_of_silent silent) watermark ?_
      · apply unclosed_perm _ (crashed_of_silent silent)
        rw [unsettled, unsettled, outcomes]
        exact (waiting.append busy).append_right _
      · rw [committed_of_silent silent]
        exact uncommitted
  | deliver message waiting busy outcomes watermark uncommitted =>
      refine .opened message ?_ rfl watermark uncommitted rfl
      rw [unclosed, unclosed, unsettled, unsettled, busy, outcomes, crashed_append]
      simp only [crashed, List.filterMap_cons, Event.crashed?, List.filterMap_nil,
        List.append_nil]
      exact ((waiting.append_right _).append_right _).append_right _
  | start message waiting busy outcomes watermark uncommitted =>
      refine .same (unclosed_perm ?_ rfl) rfl watermark uncommitted
      apply List.perm_iff_count.mpr
      intro other
      have waitingCount := waiting.count_eq other
      have busyCount := busy.count_eq other
      simp only [unsettled, outcomes, List.count_append, List.count_cons]
        at waitingCount busyCount ⊢
      omega
  | finish outcome waiting busy outcomes watermark uncommitted =>
      refine .same (unclosed_perm ?_ rfl) rfl watermark uncommitted
      apply List.perm_iff_count.mpr
      intro other
      have busyCount := busy.count_eq other
      simp only [unsettled, waiting, outcomes, List.map_append, List.map_cons, List.map_nil,
        List.count_append, List.count_cons, List.count_nil] at busyCount ⊢
      omega
  | crash message waiting busy outcomes watermark uncommitted =>
      refine .same ?_ rfl watermark uncommitted
      apply List.perm_iff_count.mpr
      intro other
      have busyCount := busy.count_eq other
      simp only [unclosed, unsettled, waiting, outcomes, crashed_append, List.count_append,
        List.count_cons] at busyCount ⊢
      simp only [crashed, List.filterMap_cons, Event.crashed?, List.filterMap_nil,
        List.count_cons, List.count_nil]
      omega
  | redeliver outcome unsettled_ waiting busy outcomes watermark uncommitted =>
      refine .same (unclosed_perm ?_ rfl) rfl watermark uncommitted
      apply List.perm_iff_count.mpr
      intro other
      have waitingCount := waiting.count_eq other
      simp only [unsettled, busy, outcomes, List.map_cons, List.count_append,
        List.count_cons] at waitingCount ⊢
      omega
  | settle outcome settled waiting busy outcomes watermark uncommitted =>
      refine .closed outcome.message ?_ rfl watermark uncommitted rfl
      apply List.perm_iff_count.mpr
      intro other
      simp only [unclosed, unsettled, waiting, busy, outcomes, List.append_nil, List.map_cons,
        List.count_append, List.count_cons]
      omega
  | commit message waiting busy outcomes watermark uncommitted =>
      refine .same (unclosed_perm ?_ rfl) rfl watermark uncommitted.symm
      rw [unsettled, unsettled, waiting, busy, outcomes]
  | refuse message waiting busy outcomes watermark uncommitted first =>
      refine .same (unclosed_perm ?_ rfl) rfl watermark uncommitted
      rw [unsettled, unsettled, waiting, busy, outcomes]

/-! ## Steps keep custody -/

/-- A message that the watermark waits for stands where no other unclosed and no finished
message stands. -/
theorem Custody.apart {dispatch : Dispatch} {events : List Event} {message : Message}
    {others : List Message} (custody : Custody dispatch events)
    (distinct : Distinct (delivered events))
    (unclosed : (dispatch.unclosed events).Perm (message :: others)) :
    ∀ other ∈ others ++ dispatch.watermark.finished, position other ≠ position message := by
  have positions := custody.distinct distinct
  unfold Distinct holdings at positions
  rw [((((unclosed.append_right _).append_right _).append_right _).map position).nodup_iff]
    at positions
  simp only [List.cons_append, List.map_cons, List.nodup_cons] at positions
  intro other member same
  apply positions.1
  rw [← same]
  apply List.mem_map_of_mem
  simp only [List.mem_append] at member ⊢
  tauto

theorem Custody.open_of_mem {dispatch : Dispatch} {events : List Event} {message : Message}
    (custody : Custody dispatch events) (member : message ∈ dispatch.unclosed events) :
    message.offset ∈ dispatch.watermark.inFlight (Place.of message) :=
  (custody.inFlight _ _).mpr ⟨message, member, rfl⟩

/-- When a message is settled, the watermark has it besides the finished ones it had, and
releases some of them. -/
theorem Custody.released {dispatch : Dispatch} {events : List Event} {message : Message}
    (custody : Custody dispatch events) (distinct : Distinct (delivered events))
    (member : message ∈ dispatch.unclosed events) :
    ((dispatch.watermark.complete message).1 ++
      (dispatch.watermark.complete message).2.finished).Perm
        (message :: dispatch.watermark.finished) := by
  apply Watermark.complete_finished_perm custody.watermark (custody.open_of_mem member)
  intro other finished
  apply custody.apart distinct (List.perm_cons_erase member)
  exact List.mem_append_right _ finished

theorem Custody.step {before after : Dispatch} {events later : List Event}
    (custody : Custody before events) (distinct : Distinct (delivered events))
    (reckoning : Reckoning before after events later) : Custody after (events ++ later) := by
  cases reckoning with
  | same unclosed nothing watermark uncommitted =>
      constructor
      · rw [delivered_append, nothing, List.append_nil]
        apply custody.conserved.trans
        apply List.perm_iff_count.mpr
        intro other
        have unclosedCount := unclosed.count_eq other
        simp only [holdings, ← uncommitted, watermark, committed_append, List.count_append,
          unclosedCount]
        omega
      · intro place offset
        rw [watermark, custody.inFlight place offset]
        constructor
        · rintro ⟨message, member, stands⟩
          exact ⟨message, unclosed.mem_iff.mpr member, stands⟩
        · rintro ⟨message, member, stands⟩
          exact ⟨message, unclosed.mem_iff.mp member, stands⟩
      · rw [watermark]
        exact custody.watermark
  | opened message unclosed received watermark uncommitted none =>
      constructor
      · rw [delivered_append, received]
        apply (custody.conserved.append_right [message]).trans
        apply List.perm_iff_count.mpr
        intro other
        have unclosedCount := unclosed.count_eq other
        simp only [holdings, ← uncommitted, watermark, Watermark.finished_track,
          committed_append, List.count_append, unclosedCount, List.count_cons, List.count_nil]
        omega
      · intro place offset
        rw [watermark, Watermark.mem_inFlight_track, custody.inFlight place offset]
        constructor
        · rintro (here | ⟨other, member, stands⟩)
          · exact ⟨message, unclosed.mem_iff.mpr List.mem_cons_self, here.symm⟩
          · exact ⟨other, unclosed.mem_iff.mpr (List.mem_cons_of_mem _ member), stands⟩
        · rintro ⟨other, member, stands⟩
          cases unclosed.mem_iff.mp member with
          | head => exact Or.inl stands.symm
          | tail _ earlier => exact Or.inr ⟨other, earlier, stands⟩
      · rw [watermark]
        exact custody.watermark.track message
  | closed message unclosed nothing watermark uncommitted none =>
      have member : message ∈ before.unclosed events :=
        unclosed.mem_iff.mpr List.mem_cons_self
      have apart := custody.apart distinct unclosed
      have open_ := custody.open_of_mem member
      constructor
      · rw [delivered_append, nothing, List.append_nil]
        apply custody.conserved.trans
        apply List.perm_iff_count.mpr
        intro other
        have unclosedCount := unclosed.count_eq other
        have releasedCount := (custody.released distinct member).count_eq other
        simp only [holdings, uncommitted, watermark, committed_append, none, List.count_append,
          List.count_cons, List.count_nil] at unclosedCount releasedCount ⊢
        omega
      · intro place offset
        rw [watermark, Watermark.mem_inFlight_complete open_, custody.inFlight place offset]
        constructor
        · rintro ⟨⟨other, isOpen, stands⟩, differs⟩
          cases unclosed.mem_iff.mp isOpen with
          | head => exact absurd stands.symm differs
          | tail _ rest => exact ⟨other, rest, stands⟩
        · rintro ⟨other, isOpen, stands⟩
          have earlier : other ∈ before.unclosed events :=
            unclosed.mem_iff.mpr (List.mem_cons_of_mem _ isOpen)
          refine ⟨⟨other, earlier, stands⟩, ?_⟩
          rw [← stands]
          exact apart other (List.mem_append_left _ isOpen)
      · rw [watermark]
        exact custody.watermark.complete open_

theorem Reached.custody {limits : Limits} {dispatch : Dispatch} {events : List Event}
    (reached : Reached limits dispatch events) (distinct : Distinct (delivered events)) :
    Custody dispatch events := by
  induction reached with
  | start => exact custody_initial limits
  | step reached possible ih =>
      rw [delivered_append] at distinct
      have passes := step_passes reached.sound possible
      exact (ih distinct.left).step distinct.left (passes.reckoning _)

end Dispatch

end Scribe.Delivery
