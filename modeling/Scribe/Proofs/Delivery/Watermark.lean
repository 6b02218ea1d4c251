import Scribe.Proofs.Delivery.Ledger

/-!
# The ledgers of all partitions

A watermark keeps one ledger for each partition that has something open.  Here a
watermark is read as a function from partitions to ledgers; dispatching and finishing a
message change this function at the partition of the message and nowhere else.  What
waits in all ledgers together is followed up to order.
-/

namespace Scribe.Delivery.Watermark

open Scribe.Broker

/-! ## Lists of ledgers -/

theorem find?_put_self (place : Place) (ledger : Ledger) (ledgers : List (Place × Ledger)) :
    find? place (put place ledger ledgers) = some ledger := by
  induction ledgers with
  | nil => simp [put, find?]
  | cons head tail ih =>
      simp only [put]
      split
      · simp [find?]
      next other => simp [find?, other, ih]

theorem find?_put_other {place other : Place} (differ : other ≠ place) (ledger : Ledger)
    (ledgers : List (Place × Ledger)) :
    find? other (put place ledger ledgers) = find? other ledgers := by
  induction ledgers with
  | nil => simp [put, find?, differ.symm]
  | cons head tail ih =>
      simp only [put]
      split
      next same => simp [find?, same, differ.symm]
      next => simp only [find?, ih]

theorem find?_close_self (place : Place) (ledgers : List (Place × Ledger)) :
    find? place (close place ledgers) = none := by
  induction ledgers with
  | nil => rfl
  | cons head tail ih =>
      by_cases same : head.1 = place
      · simpa [close, same] using ih
      · simp only [close, List.filter_cons, ne_eq, same, not_false_eq_true, decide_true,
          if_true, find?, if_false]
        exact ih

theorem find?_close_other {place other : Place} (differ : other ≠ place)
    (ledgers : List (Place × Ledger)) :
    find? other (close place ledgers) = find? other ledgers := by
  induction ledgers with
  | nil => rfl
  | cons head tail ih =>
      by_cases same : head.1 = place
      · have ih := ih
        simp only [close, List.filter_cons, ne_eq, same, not_true_eq_false, decide_false,
          Bool.false_eq_true, if_false, find?, differ.symm] at ih ⊢
        exact ih
      · simp only [close, List.filter_cons, ne_eq, same, not_false_eq_true, decide_true,
          if_true, find?]
        rw [← ih]
        rfl

/-- A ledger that is found stands at one place of the list, where it can be replaced. -/
theorem find?_split {place : Place} {ledger : Ledger} {ledgers : List (Place × Ledger)}
    (found : find? place ledgers = some ledger) :
    ∃ before after, ledgers = before ++ (place, ledger) :: after ∧
      ∀ new, put place new ledgers = before ++ (place, new) :: after := by
  induction ledgers with
  | nil => cases found
  | cons head tail ih =>
      simp only [find?] at found
      split at found
      next same =>
        cases found
        refine ⟨[], tail, ?_, ?_⟩
        · rw [← same]
          rfl
        · intro new
          simp [put, same]
      next other =>
        obtain ⟨before, after, equal, replaced⟩ := ih found
        refine ⟨head :: before, after, ?_, ?_⟩
        · rw [equal]
          rfl
        · intro new
          simp only [put, other, if_false, replaced new]
          rfl

/-- A new partition comes last. -/
theorem put_of_find?_none {place : Place} {ledgers : List (Place × Ledger)}
    (missing : find? place ledgers = none) (ledger : Ledger) :
    put place ledger ledgers = ledgers ++ [(place, ledger)] := by
  induction ledgers with
  | nil => rfl
  | cons head tail ih =>
      simp only [find?] at missing
      split at missing
      next => cases missing
      next other =>
        simp only [put, other, if_false, ih missing]
        rfl

theorem find?_none_not_mem {place : Place} {ledgers : List (Place × Ledger)}
    (missing : find? place ledgers = none) : place ∉ ledgers.map Prod.fst := by
  induction ledgers with
  | nil => simp
  | cons head tail ih =>
      simp only [find?] at missing
      split at missing
      next => cases missing
      next other =>
        intro member
        cases List.mem_cons.mp member with
        | inl same => exact other same.symm
        | inr inTail => exact ih missing inTail

/-! ## Reading a watermark -/

/-- The ledger of a partition; one that is not open is empty. -/
def ledger (watermark : Watermark) (place : Place) : Ledger :=
  (find? place watermark.ledgers).getD {}

/-- The offsets of a partition that are in flight. -/
def inFlight (watermark : Watermark) (place : Place) : List Int :=
  (watermark.ledger place).inFlight

/-- All finished messages that wait. -/
def finished (watermark : Watermark) : List Message :=
  watermark.ledgers.flatMap fun entry => entry.2.finished

/-- No partition has two ledgers, and a ledger holds messages of its own partition. -/
structure WF (watermark : Watermark) : Prop where
  places_nodup : (watermark.ledgers.map Prod.fst).Nodup
  own : ∀ entry ∈ watermark.ledgers, ∀ message ∈ entry.2.finished, Place.of message = entry.1

theorem wf_empty : WF {} where
  places_nodup := List.nodup_nil
  own := by
    intro entry member
    cases member

theorem ledger_track_self (watermark : Watermark) (message : Message) :
    (watermark.track message).ledger (Place.of message) =
      (watermark.ledger (Place.of message)).track message.offset := by
  simp [ledger, track, find?_put_self]

theorem ledger_track_other (watermark : Watermark) {message : Message} {place : Place}
    (differ : place ≠ Place.of message) :
    (watermark.track message).ledger place = watermark.ledger place := by
  simp [ledger, track, find?_put_other differ]

/-- A partition with an offset in flight is open. -/
theorem find?_of_inFlight {watermark : Watermark} {place : Place} {offset : Int}
    (open_ : offset ∈ watermark.inFlight place) :
    find? place watermark.ledgers = some (watermark.ledger place) := by
  simp only [inFlight, ledger] at open_ ⊢
  cases found : find? place watermark.ledgers with
  | none => simp [found] at open_
  | some ledger => rfl

/-- An empty ledger says nothing. -/
theorem eq_empty_of_isEmpty {ledger : Ledger} (empty : ledger.isEmpty = true) :
    ledger = {} := by
  obtain ⟨inFlight, finished⟩ := ledger
  simp only [Ledger.isEmpty, Bool.and_eq_true, List.isEmpty_iff] at empty
  rw [empty.1, empty.2]

theorem complete_fst {watermark : Watermark} {message : Message}
    (open_ : message.offset ∈ watermark.inFlight (Place.of message)) :
    (watermark.complete message).1 =
      ((watermark.ledger (Place.of message)).complete message).1 := by
  simp only [complete, find?_of_inFlight open_]

/-- A finished message changes the ledger of its partition, which is closed if nothing
is left in it. -/
theorem complete_snd {watermark : Watermark} {message : Message}
    (open_ : message.offset ∈ watermark.inFlight (Place.of message)) :
    (watermark.complete message).2.ledgers =
      if ((watermark.ledger (Place.of message)).complete message).2.isEmpty then
        close (Place.of message) watermark.ledgers
      else
        put (Place.of message) ((watermark.ledger (Place.of message)).complete message).2
          watermark.ledgers := by
  simp only [complete, find?_of_inFlight open_]

theorem ledger_complete_self {watermark : Watermark} {message : Message}
    (open_ : message.offset ∈ watermark.inFlight (Place.of message)) :
    (watermark.complete message).2.ledger (Place.of message) =
      ((watermark.ledger (Place.of message)).complete message).2 := by
  unfold ledger
  rw [complete_snd open_]
  by_cases empty : ((watermark.ledger (Place.of message)).complete message).2.isEmpty = true
  · rw [if_pos empty, find?_close_self]
    exact (eq_empty_of_isEmpty empty).symm
  · rw [if_neg empty, find?_put_self]
    rfl

theorem ledger_complete_other {watermark : Watermark} {message : Message} {place : Place}
    (open_ : message.offset ∈ watermark.inFlight (Place.of message))
    (differ : place ≠ Place.of message) :
    (watermark.complete message).2.ledger place = watermark.ledger place := by
  unfold ledger
  rw [complete_snd open_]
  by_cases empty : ((watermark.ledger (Place.of message)).complete message).2.isEmpty = true
  · rw [if_pos empty, find?_close_other differ]
  · rw [if_neg empty, find?_put_other differ]

/-! ## Offsets in flight -/

theorem mem_inFlight_track {watermark : Watermark} {message : Message} {place : Place}
    {offset : Int} :
    offset ∈ (watermark.track message).inFlight place ↔
      (place, offset) = position message ∨ offset ∈ watermark.inFlight place := by
  by_cases same : place = Place.of message
  · subst same
    simp [inFlight, ledger_track_self, Ledger.track, position]
  · simp [inFlight, ledger_track_other watermark same, position, same]

theorem mem_inFlight_complete {watermark : Watermark} {message : Message} {place : Place}
    {offset : Int} (open_ : message.offset ∈ watermark.inFlight (Place.of message)) :
    offset ∈ (watermark.complete message).2.inFlight place ↔
      offset ∈ watermark.inFlight place ∧ (place, offset) ≠ position message := by
  by_cases same : place = Place.of message
  · subst same
    simp [inFlight, ledger_complete_self open_, Ledger.complete, position]
  · simp [inFlight, ledger_complete_other open_ same, position, same]

/-! ## Messages that wait -/

/-- Dispatching finishes nothing. -/
theorem finished_track (watermark : Watermark) (message : Message) :
    (watermark.track message).finished = watermark.finished := by
  simp only [finished, track]
  cases found : find? (Place.of message) watermark.ledgers with
  | none =>
      rw [put_of_find?_none found, List.flatMap_append]
      simp [Ledger.track]
  | some ledger =>
      obtain ⟨before, after, equal, replaced⟩ := find?_split found
      rw [replaced, equal]
      simp [Ledger.track]

/-- What waits in the ledger of a partition comes from there. -/
theorem WF.own_ledger {watermark : Watermark} (wf : watermark.WF) {place : Place}
    {message : Message} (member : message ∈ (watermark.ledger place).finished) :
    Place.of message = place := by
  unfold ledger at member
  cases found : find? place watermark.ledgers with
  | none =>
      rw [found] at member
      cases member
  | some ledger =>
      rw [found] at member
      obtain ⟨before, after, equal, _⟩ := find?_split found
      exact wf.own (place, ledger) (by simp [equal]) message member

/-- A partition may get any ledger with messages of its own. -/
theorem WF.put {watermark : Watermark} (wf : watermark.WF) {place : Place} {new : Ledger}
    (own : ∀ message ∈ new.finished, Place.of message = place) :
    WF ⟨put place new watermark.ledgers⟩ := by
  cases found : find? place watermark.ledgers with
  | none =>
      rw [put_of_find?_none found]
      constructor
      · rw [List.map_append]
        apply List.nodup_append.mpr
        refine ⟨wf.places_nodup, by simp, ?_⟩
        intro old oldMem other otherMem equal
        have otherPlace : other = place := by simpa using otherMem
        rw [equal, otherPlace] at oldMem
        exact find?_none_not_mem found oldMem
      · intro entry member
        cases List.mem_append.mp member with
        | inl old => exact wf.own entry old
        | inr only =>
            rw [List.mem_singleton.mp only]
            exact own
  | some ledger =>
      obtain ⟨before, after, equal, replaced⟩ := find?_split found
      have places := wf.places_nodup
      rw [equal] at places
      rw [replaced]
      constructor
      · simpa using places
      · intro entry member
        rcases List.mem_append.mp member with inBefore | inRest
        · exact wf.own entry (by simp [equal, inBefore])
        · rcases List.mem_cons.mp inRest with same | inAfter
          · rw [same]
            exact own
          · exact wf.own entry (by simp [equal, inAfter])

theorem WF.track {watermark : Watermark} (wf : watermark.WF) (message : Message) :
    (watermark.track message).WF := by
  apply wf.put
  intro waiting member
  exact wf.own_ledger member

/-- Where the ledger of a finished message stands, and what stands there afterwards. -/
theorem complete_ledgers {watermark : Watermark} (wf : watermark.WF) {message : Message}
    (open_ : message.offset ∈ watermark.inFlight (Place.of message)) :
    let ledger := watermark.ledger (Place.of message)
    let rest := (ledger.complete message).2
    ∃ before after, watermark.ledgers = before ++ (Place.of message, ledger) :: after ∧
      (watermark.complete message).2.ledgers =
        before ++ (if rest.isEmpty then [] else [(Place.of message, rest)]) ++ after := by
  intro ledger rest
  obtain ⟨before, after, equal, replaced⟩ := find?_split (find?_of_inFlight open_)
  refine ⟨before, after, equal, ?_⟩
  rw [complete_snd open_]
  by_cases empty : rest.isEmpty = true
  · rw [if_pos empty, if_pos empty]
    have places := wf.places_nodup
    rw [equal, List.map_append, List.map_cons] at places
    obtain ⟨_, restNodup, apart⟩ := List.nodup_append.mp places
    have beforeOther : ∀ entry ∈ before, entry.1 ≠ Place.of message := by
      intro entry member
      exact apart entry.1 (List.mem_map_of_mem member) (Place.of message) (by simp)
    have afterOther : ∀ entry ∈ after, entry.1 ≠ Place.of message := by
      intro entry member same
      have placeMem := List.mem_map_of_mem (f := Prod.fst) member
      rw [same] at placeMem
      exact (List.nodup_cons.mp restNodup).1 placeMem
    rw [equal, close, List.filter_append, List.filter_cons]
    rw [List.filter_eq_self.mpr (fun entry member => by simp [beforeOther entry member])]
    rw [List.filter_eq_self.mpr (fun entry member => by simp [afterOther entry member])]
    simp
  · rw [if_neg empty, if_neg empty, replaced]
    simp only [List.append_assoc, List.singleton_append]
    rfl

/-- Where the ledger of a finished message stands, and what waits after it. -/
theorem complete_split {watermark : Watermark} (wf : watermark.WF) {message : Message}
    (open_ : message.offset ∈ watermark.inFlight (Place.of message)) :
    let ledger := watermark.ledger (Place.of message)
    ∃ before after, watermark.ledgers = before ++ (Place.of message, ledger) :: after ∧
      (watermark.complete message).2.finished =
        before.flatMap (fun entry => entry.2.finished) ++
          ((ledger.complete message).2.finished ++
            after.flatMap fun entry => entry.2.finished) := by
  intro ledger
  obtain ⟨before, after, equal, left⟩ := complete_ledgers wf open_
  refine ⟨before, after, equal, ?_⟩
  rw [finished, left]
  by_cases empty : (ledger.complete message).2.isEmpty = true
  · rw [if_pos empty, eq_empty_of_isEmpty empty, List.append_nil, List.flatMap_append]
    rfl
  · rw [if_neg empty, List.flatMap_append, List.flatMap_append, List.flatMap_singleton,
      List.append_assoc]

/-- A finished message joins those that wait, and what is released leaves them. -/
theorem complete_finished_perm {watermark : Watermark} (wf : watermark.WF)
    {message : Message} (open_ : message.offset ∈ watermark.inFlight (Place.of message))
    (fresh : ∀ other ∈ watermark.finished, position other ≠ position message) :
    ((watermark.complete message).1 ++ (watermark.complete message).2.finished).Perm
      (message :: watermark.finished) := by
  obtain ⟨before, after, equal, rest⟩ := complete_split wf open_
  have new : ∀ other ∈ (watermark.ledger (Place.of message)).finished,
      other.offset ≠ message.offset := by
    intro other member sameOffset
    have entryMem : (Place.of message, watermark.ledger (Place.of message)) ∈
        watermark.ledgers := by
      rw [equal]
      simp
    have otherMem : other ∈ watermark.finished := List.mem_flatMap.mpr ⟨_, entryMem, member⟩
    apply fresh other otherMem
    simp only [position, sameOffset, wf.own_ledger member]
  have kept := Ledger.insertMessage_perm new
  rw [← Ledger.complete_append] at kept
  have before_ : watermark.finished =
      before.flatMap (fun entry => entry.2.finished) ++
        ((watermark.ledger (Place.of message)).finished ++
          after.flatMap fun entry => entry.2.finished) := by
    unfold finished
    rw [equal, List.flatMap_append, List.flatMap_cons]
  rw [complete_fst open_, rest, before_]
  generalize before.flatMap (fun entry => entry.2.finished) = front
  generalize after.flatMap (fun entry => entry.2.finished) = back
  have moved := (kept.append_right back).append_left front
  refine List.Perm.trans ?_ (moved.trans List.perm_middle)
  simp only [List.append_assoc]
  exact (List.perm_append_comm_assoc _ _ _)

theorem WF.complete {watermark : Watermark} (wf : watermark.WF) {message : Message}
    (open_ : message.offset ∈ watermark.inFlight (Place.of message)) :
    (watermark.complete message).2.WF := by
  have ledgers : (watermark.complete message).2 =
      ⟨(watermark.complete message).2.ledgers⟩ := rfl
  rw [ledgers, complete_snd open_]
  by_cases empty : ((watermark.ledger (Place.of message)).complete message).2.isEmpty = true
  · rw [if_pos empty]
    constructor
    · exact wf.places_nodup.sublist (List.filter_sublist.map _)
    · intro entry member
      exact wf.own entry (List.mem_of_mem_filter member)
  · rw [if_neg empty]
    apply wf.put
    intro waiting member
    have inserted : waiting ∈ Ledger.insertMessage message
        (watermark.ledger (Place.of message)).finished := by
      rw [← Ledger.complete_append]
      exact List.mem_append_right _ member
    rcases Ledger.mem_of_mem_insertMessage inserted with isNew | isOld
    · rw [isNew]
    · exact wf.own_ledger isOld

end Scribe.Delivery.Watermark
