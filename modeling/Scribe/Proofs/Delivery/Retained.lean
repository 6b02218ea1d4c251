import Scribe.Proofs.Delivery.Prefixes

/-!
# What is retained

A message is retained from its delivery to its commit: it is outstanding for the watermark, or
released and waiting to be committed.  Where the offsets of each partition rise, what is retained
is exactly what was delivered and is not committed.  The ledgers show it: a delivered message
adds one to the ledger of its partition, and a finished one takes from that what it releases.
-/

namespace Scribe.Delivery

open Scribe.Broker

/-! ## Sizes of ledgers -/

namespace Watermark

@[simp] theorem outstanding_nil : outstanding ⟨[]⟩ = 0 := rfl

@[simp] theorem outstanding_cons (entry : Place × Ledger) (rest : List (Place × Ledger)) :
    outstanding ⟨entry :: rest⟩ = entry.2.size + outstanding ⟨rest⟩ := rfl

@[simp] theorem outstanding_append (early late : List (Place × Ledger)) :
    outstanding ⟨early ++ late⟩ = outstanding ⟨early⟩ + outstanding ⟨late⟩ := by
  induction early with
  | nil => simp
  | cons entry rest ih =>
      rw [List.cons_append, outstanding_cons, outstanding_cons, ih]
      omega

theorem size_of_isEmpty {ledger : Ledger} (empty : ledger.isEmpty = true) : ledger.size = 0 := by
  rw [eq_empty_of_isEmpty empty]
  rfl

/-- Only the ledger of its partition changes when a message is dispatched. -/
theorem outstanding_track (watermark : Watermark) (message : Message) :
    (watermark.track message).outstanding + (watermark.ledger (Place.of message)).size =
      watermark.outstanding +
        ((watermark.ledger (Place.of message)).track message.offset).size := by
  obtain ⟨ledgers⟩ := watermark
  simp only [track, ledger]
  cases found : find? (Place.of message) ledgers with
  | none =>
      rw [put_of_find?_none found]
      simp [Ledger.size]
  | some ledger =>
      obtain ⟨before, after, equal, replaced⟩ := find?_split found
      rw [replaced, equal]
      simp only [Option.getD_some, outstanding_append, outstanding_cons]
      omega

/-- Only the ledger of its partition changes when a message has finished. -/
theorem outstanding_complete {watermark : Watermark} (wf : watermark.WF) {message : Message}
    (open_ : message.offset ∈ watermark.inFlight (Place.of message)) :
    (watermark.complete message).2.outstanding + (watermark.ledger (Place.of message)).size =
      watermark.outstanding +
        ((watermark.ledger (Place.of message)).complete message).2.size := by
  obtain ⟨before, after, equal, left⟩ := complete_ledgers wf open_
  have whole : watermark.outstanding = _ := congrArg (fun ledgers => outstanding ⟨ledgers⟩) equal
  have remains : (watermark.complete message).2.outstanding = _ :=
    congrArg (fun ledgers => outstanding ⟨ledgers⟩) left
  rw [whole, remains]
  simp only [outstanding_append, outstanding_cons]
  by_cases empty :
      ((watermark.ledger (Place.of message)).complete message).2.isEmpty = true
  · rw [if_pos empty, size_of_isEmpty empty, outstanding_nil]
    omega
  · simp only [if_neg empty, outstanding_cons, outstanding_nil]
    omega

end Watermark

/-- What is open in a partition begins with its first unfinished message. -/
theorem Ledger.size_of (tracked : List Message) (closed : Message → Bool) :
    (Ledger.of tracked closed).size = (tracked.dropWhile closed).length := by
  simp only [Ledger.size, Ledger.of, List.length_map]
  generalize tracked.dropWhile closed = messages
  induction messages with
  | nil => rfl
  | cons message rest ih =>
      simp only [List.filter_cons]
      cases closed message <;> simp <;> omega

/-- What a finished message releases is what its ledger loses. -/
theorem Ledger.size_complete {tracked : List Message} {closed : Message → Bool}
    {message : Message} (rising : Ledger.Rising tracked) (member : message ∈ tracked)
    (opened : closed message = false) :
    ((Ledger.of tracked closed).complete message).1.length +
        ((Ledger.of tracked closed).complete message).2.size =
      (Ledger.of tracked closed).size := by
  have grows : ∀ other, closed other = true → Ledger.closing closed message other = true :=
    fun other finished => Ledger.closing_of_closed finished message
  rw [Ledger.of_complete rising member opened, Ledger.size_of, Ledger.size_of,
    Ledger.dropWhile_more grows, ← List.length_append, List.takeWhile_append_dropWhile]

theorem Ledger.size_track {ledger : Ledger} {offset : Int}
    (above : ∀ other ∈ ledger.inFlight, other < offset) :
    (ledger.track offset).size = ledger.size + 1 := by
  simp only [Ledger.size, Ledger.track, Ledger.insertOffset_of_above above, List.length_append,
    List.length_singleton]
  omega

namespace Dispatch

open History

/-! ## What is retained is what is not committed -/

/-- How many messages are kept because they were delivered and are not committed. -/
def retained (dispatch : Dispatch) : Nat :=
  dispatch.watermark.outstanding + dispatch.uncommitted.length

/-- The offset of a message that comes in lies above all that are in flight in its
partition. -/
theorem Custody.above {dispatch : Dispatch} {events : List Event} {message : Message}
    (custody : Custody dispatch events) (ascending : Ascending (delivered events ++ [message])) :
    ∀ other ∈ dispatch.watermark.inFlight (Place.of message), other < message.offset := by
  intro offset flying
  obtain ⟨other, unclosed, stands⟩ := (custody.inFlight _ _).mp flying
  have brought : other ∈ delivered events := custody.mem_delivered (by simp [holdings, unclosed])
  have rises := (List.pairwise_append.mp ascending).2.2 other brought message
    List.mem_cons_self (congrArg Prod.fst stands)
  have same : other.offset = offset := congrArg Prod.snd stands
  rwa [same] at rises

/-- What a finished message releases is what its ledger loses. -/
theorem Orderly.size_complete {dispatch : Dispatch} {events : List Event} {message : Message}
    (orderly : Orderly dispatch events) (custody : Custody dispatch events)
    (ascending : Ascending (delivered events)) (member : message ∈ dispatch.unclosed events) :
    (dispatch.watermark.complete message).1.length +
        ((dispatch.watermark.ledger (Place.of message)).complete message).2.size =
      (dispatch.watermark.ledger (Place.of message)).size := by
  rw [Watermark.complete_fst (custody.open_of_mem member), orderly.ledgers]
  exact Ledger.size_complete (ascending.rising _) (custody.tracks member) (isClosed_of_mem member)

theorem Reached.retained_add {limits : Limits} {dispatch : Dispatch} {events : List Event}
    (reached : Reached limits dispatch events) (ascending : Ascending (delivered events)) :
    dispatch.retained + (committed events).length = (delivered events).length := by
  induction reached with
  | start => rfl
  | @step before after _ events later reached possible ih =>
      have earlier : Ascending (delivered events) := ascending_delivered_left ascending
      have custody := reached.custody earlier.distinct
      have balance := ih earlier
      simp only [retained, delivered_append, committed_append, List.length_append]
        at balance ⊢
      cases (step_passes reached.sound possible).reckoning events with
      | same unclosed nothing watermark uncommitted =>
          have moved := congrArg List.length uncommitted
          rw [List.length_append] at moved
          rw [watermark, nothing, List.length_nil]
          omega
      | opened message unclosed received watermark uncommitted none =>
          rw [delivered_append, received] at ascending
          have grown := Watermark.outstanding_track before.watermark message
          rw [Ledger.size_track (custody.above ascending)] at grown
          have moved := congrArg List.length uncommitted
          rw [List.length_append] at moved
          rw [watermark, received, List.length_singleton]
          omega
      | closed message unclosed nothing watermark uncommitted none =>
          have member : message ∈ before.unclosed events :=
            unclosed.mem_iff.mpr List.mem_cons_self
          have shrunk :=
            Watermark.outstanding_complete custody.watermark (custody.open_of_mem member)
          have released := (reached.orderly earlier).size_complete custody earlier member
          rw [watermark, uncommitted, nothing, none, List.length_append, List.length_nil]
          omega

/-- As long as the first message of a partition is open, nothing of the partition is
released. -/
theorem Orderly.none_released {dispatch : Dispatch} {events : List Event} {message : Message}
    {place : Place} (orderly : Orderly dispatch events)
    (first : (inPlace place (delivered events)).head? = some message)
    (member : message ∈ dispatch.unclosed events) :
    inPlace place (committed events ++ dispatch.uncommitted) = [] := by
  rw [orderly.released]
  cases all : inPlace place (delivered events) with
  | nil => rfl
  | cons other rest =>
      rw [all, List.head?_cons, Option.some_inj] at first
      have open_ : dispatch.isClosed events other = false := by simp [isClosed, first, member]
      rw [List.takeWhile_cons, if_neg (by simp [open_])]

end Dispatch

end Scribe.Delivery
