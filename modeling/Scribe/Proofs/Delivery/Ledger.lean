import Mathlib.Data.List.TakeWhile
import Scribe.Proofs.Delivery.History

/-!
# The law of one ledger

Seen from outside, the ledger of a partition is given by two things: the messages that
were dispatched from it, in order, and which of them have finished.  `Ledger.of` says how.
The messages up to the first unfinished one are released and leave no trace; of the
others, the unfinished ones are in flight and the finished ones wait.

Dispatching and finishing keep a ledger in this form as long as offsets rise, and what is
released by finishing is what the released prefix gains.
-/

namespace Scribe.Delivery.Ledger

open Scribe.Broker

/-- Offsets rise from message to message. -/
abbrev Rising (messages : List Message) : Prop :=
  messages.Pairwise fun earlier later => earlier.offset < later.offset

theorem Rising.eq_of_offset {messages : List Message} (rising : Rising messages)
    {left right : Message} (leftMem : left ∈ messages) (rightMem : right ∈ messages)
    (same : left.offset = right.offset) : left = right := by
  have nodup : (messages.map Message.offset).Nodup := by
    apply List.pairwise_map.mpr
    exact List.Pairwise.imp (fun rises => Int.ne_of_lt rises) rising
  exact List.inj_on_of_nodup_map nodup leftMem rightMem same

/-- The ledger of a partition from which `tracked` were dispatched, where those that
satisfy `closed` have finished. -/
def of (tracked : List Message) (closed : Message → Bool) : Ledger where
  inFlight := ((tracked.dropWhile closed).filter fun message => !closed message).map
    Message.offset
  finished := (tracked.dropWhile closed).filter closed

/-- Which messages have finished when one more has. -/
def closing (closed : Message → Bool) (message : Message) : Message → Bool :=
  fun other => closed other || decide (other = message)

theorem closing_self (closed : Message → Bool) (message : Message) :
    closing closed message message = true := by
  simp [closing]

theorem closing_of_closed {closed : Message → Bool} {other : Message}
    (finished : closed other = true) (message : Message) :
    closing closed message other = true := by
  simp [closing, finished]

theorem closing_of_ne {message other : Message} (differs : other ≠ message)
    (closed : Message → Bool) : closing closed message other = closed other := by
  simp [closing, differs]

/-! ## Offsets in flight -/

@[simp] theorem mem_insertOffset {offset other : Int} {offsets : List Int} :
    other ∈ insertOffset offset offsets ↔ other = offset ∨ other ∈ offsets := by
  induction offsets with
  | nil => simp [insertOffset]
  | cons head tail ih =>
      simp only [insertOffset]
      split
      · simp
      · split
        next equal => simp [equal]
        next =>
          simp only [List.mem_cons, ih]
          exact or_left_comm

/-- An offset above all others goes to the end. -/
theorem insertOffset_of_above {offset : Int} {offsets : List Int}
    (above : ∀ other ∈ offsets, other < offset) :
    insertOffset offset offsets = offsets ++ [offset] := by
  induction offsets with
  | nil => rfl
  | cons head tail ih =>
      have headBelow : head < offset := above head (by simp)
      have tailBelow : ∀ other ∈ tail, other < offset := by
        intro other member
        exact above other (by simp [member])
      simp only [insertOffset]
      rw [if_neg (by omega), if_neg (by omega), ih tailBelow]
      rfl

/-! ## Finished messages -/

/-- A message at a new offset joins the finished ones and displaces none. -/
theorem insertMessage_perm {message : Message} {finished : List Message}
    (fresh : ∀ other ∈ finished, other.offset ≠ message.offset) :
    (insertMessage message finished).Perm (message :: finished) := by
  induction finished with
  | nil => exact List.Perm.refl _
  | cons head tail ih =>
      have headFresh : head.offset ≠ message.offset := fresh head (by simp)
      have tailFresh : ∀ other ∈ tail, other.offset ≠ message.offset := by
        intro other member
        exact fresh other (by simp [member])
      simp only [insertMessage]
      split
      · exact List.Perm.refl _
      · rw [if_neg (fun equal => headFresh equal.symm)]
        exact ((ih tailFresh).cons head).trans (List.Perm.swap message head tail)

theorem mem_of_mem_insertMessage {message other : Message} {finished : List Message}
    (member : other ∈ insertMessage message finished) :
    other = message ∨ other ∈ finished := by
  induction finished with
  | nil => exact Or.inl (List.mem_singleton.mp member)
  | cons head tail ih =>
      simp only [insertMessage] at member
      split at member
      · exact List.mem_cons.mp member
      · split at member
        · cases List.mem_cons.mp member with
          | inl same => exact Or.inl same
          | inr inTail => exact Or.inr (List.mem_cons_of_mem _ inTail)
        · cases List.mem_cons.mp member with
          | inl same => exact Or.inr (by simp [same])
          | inr inRest =>
              cases ih inRest with
              | inl same => exact Or.inl same
              | inr inTail => exact Or.inr (List.mem_cons_of_mem _ inTail)

/-- Finishing a message releases some of the finished messages and keeps the others. -/
theorem complete_append (ledger : Ledger) (message : Message) :
    (ledger.complete message).1 ++ (ledger.complete message).2.finished =
      insertMessage message ledger.finished :=
  List.prefix_iff_eq_append.mp (List.takeWhile_prefix _)

/-- A finished message takes the place among the finished ones that it had among the
dispatched ones. -/
theorem insertMessage_filter {tracked : List Message} {closed : Message → Bool}
    {message : Message} (rising : Rising tracked) (member : message ∈ tracked)
    (opened : closed message = false) :
    insertMessage message (tracked.filter closed) = tracked.filter (closing closed message) := by
  induction tracked with
  | nil => cases member
  | cons head tail ih =>
      have headBelow := (List.pairwise_cons.mp rising).1
      have tailRising := (List.pairwise_cons.mp rising).2
      by_cases atHead : head = message
      · subst head
        have absent : message ∉ tail := by
          intro again
          exact absurd (headBelow message again) (Int.lt_irrefl _)
        have tailSame : tail.filter (closing closed message) = tail.filter closed := by
          apply List.filter_congr
          intro other otherMem
          have differ : other ≠ message := fun equal => absent (equal ▸ otherMem)
          exact closing_of_ne differ closed
        simp only [List.filter_cons, opened, closing_self, Bool.false_eq_true, if_false, if_true,
          tailSame]
        cases found : tail.filter closed with
        | nil => rfl
        | cons next rest =>
            have nextMem : next ∈ tail := by
              apply List.mem_of_mem_filter (p := closed)
              rw [found]
              simp
            simp [insertMessage, headBelow next nextMem]
      · have inTail : message ∈ tail := by
          cases member with
          | head => exact absurd rfl atHead
          | tail _ inTail => exact inTail
        have below : head.offset < message.offset := headBelow message inTail
        have rest := ih tailRising inTail
        have headSame := closing_of_ne atHead closed
        by_cases headClosed : closed head = true
        · simp only [List.filter_cons, headSame, headClosed, if_true, insertMessage]
          rw [if_neg (by omega), if_neg (by omega), rest]
        · simp only [List.filter_cons, headSame, headClosed, Bool.false_eq_true, if_false]
          exact rest

/-- Of the finished messages those below everything in flight are the ones that come
before the first unfinished message. -/
theorem takeWhile_isBelow {tracked : List Message} (closed : Message → Bool)
    (rising : Rising tracked) :
    ((tracked.filter closed).takeWhile fun waiting =>
      isBelow ((tracked.filter fun message => !closed message).map Message.offset)
        waiting.offset) = tracked.takeWhile closed := by
  induction tracked with
  | nil => rfl
  | cons head tail ih =>
      have headBelow := (List.pairwise_cons.mp rising).1
      have tailRising := (List.pairwise_cons.mp rising).2
      by_cases headClosed : closed head = true
      · have first : isBelow ((tail.filter fun message => !closed message).map Message.offset)
            head.offset = true := by
          cases found : tail.filter fun message => !closed message with
          | nil => rfl
          | cons next rest =>
              have nextMem : next ∈ tail := by
                apply List.mem_of_mem_filter (p := fun message => !closed message)
                rw [found]
                simp
              simp [isBelow, headBelow next nextMem]
        simp only [List.filter_cons, headClosed, Bool.not_true, Bool.false_eq_true, if_false,
          if_true, List.takeWhile_cons, first]
        rw [ih tailRising]
      · simp only [Bool.not_eq_true] at headClosed
        simp only [List.filter_cons, headClosed, Bool.not_false, if_true, Bool.false_eq_true,
          if_false, List.map_cons, List.takeWhile_cons, isBelow]
        cases found : tail.filter closed with
        | nil => rfl
        | cons next rest =>
            have nextMem : next ∈ tail := by
              apply List.mem_of_mem_filter (p := closed)
              rw [found]
              simp
            have above : ¬ next.offset < head.offset := by
              have := headBelow next nextMem
              omega
            simp [above]

/-! ## The law -/

/-- The ledger depends on which of the dispatched messages have finished, and on
nothing else. -/
theorem of_congr {tracked : List Message} {left right : Message → Bool}
    (same : ∀ message ∈ tracked, left message = right message) :
    of tracked left = of tracked right := by
  have dropSame : tracked.dropWhile left = tracked.dropWhile right := by
    induction tracked with
    | nil => rfl
    | cons head tail ih =>
        have headSame := same head (by simp)
        have tailSame := ih fun message member => same message (by simp [member])
        simp only [List.dropWhile_cons, headSame, tailSame]
  have rest : ∀ message ∈ tracked.dropWhile right, left message = right message := by
    intro message member
    exact same message ((List.dropWhile_sublist right).mem member)
  simp only [of, dropSame]
  congr 1
  · congr 1
    apply List.filter_congr
    intro message member
    rw [rest message member]
  · exact List.filter_congr rest

theorem takeWhile_congr {tracked : List Message} {left right : Message → Bool}
    (same : ∀ message ∈ tracked, left message = right message) :
    tracked.takeWhile left = tracked.takeWhile right := by
  induction tracked with
  | nil => rfl
  | cons head tail ih =>
      have headSame := same head (by simp)
      have tailSame := ih fun message member => same message (by simp [member])
      simp only [List.takeWhile_cons, headSame, tailSame]

/-- An unfinished message at the end is left over when the finished ones in front are
dropped. -/
theorem dropWhile_append_of_open {tracked : List Message} {closed : Message → Bool}
    {message : Message} (opened : closed message = false) :
    (tracked ++ [message]).dropWhile closed = tracked.dropWhile closed ++ [message] := by
  induction tracked with
  | nil => simp [opened]
  | cons head tail ih =>
      simp only [List.cons_append, List.dropWhile_cons]
      split
      · exact ih
      · rfl

theorem takeWhile_append_of_open {tracked : List Message} {closed : Message → Bool}
    {message : Message} (opened : closed message = false) :
    (tracked ++ [message]).takeWhile closed = tracked.takeWhile closed := by
  induction tracked with
  | nil => simp [opened]
  | cons head tail ih =>
      simp only [List.cons_append, List.takeWhile_cons]
      split
      · rw [ih]
      · rfl

/-- Dispatching one more message keeps the law. -/
theorem of_track {tracked : List Message} {closed : Message → Bool} {message : Message}
    (rising : Rising (tracked ++ [message])) (opened : closed message = false) :
    (of tracked closed).track message.offset = of (tracked ++ [message]) closed := by
  have above : ∀ other ∈ (of tracked closed).inFlight, other < message.offset := by
    intro other member
    obtain ⟨earlier, earlierMem, rfl⟩ := List.mem_map.mp member
    have tracked := (List.dropWhile_sublist closed).mem (List.mem_of_mem_filter earlierMem)
    exact (List.pairwise_append.mp rising).2.2 earlier tracked message (by simp)
  simp only [track, insertOffset_of_above above]
  simp only [of, dropWhile_append_of_open opened, List.filter_append, List.map_append]
  simp [opened]

/-- What remains in flight when one more message has finished. -/
theorem filter_inFlight {tracked : List Message} (closed : Message → Bool)
    {message : Message} (rising : Rising tracked) (member : message ∈ tracked) :
    ((tracked.filter fun other => !closed other).map Message.offset).filter
        (· != message.offset) =
      (tracked.filter fun other => !closing closed message other).map Message.offset := by
  rw [List.filter_map, List.filter_filter]
  congr 1
  apply List.filter_congr
  intro other otherMem
  by_cases equal : other = message
  · simp [equal, closing_self]
  · have differ : other.offset ≠ message.offset := fun sameOffset =>
      equal (Rising.eq_of_offset rising otherMem member sameOffset)
    simp [closing_of_ne equal, differ]

/-- A prefix of finished messages stays in front when more have finished. -/
theorem takeWhile_more {tracked : List Message} {closed more : Message → Bool}
    (grows : ∀ message, closed message = true → more message = true) :
    tracked.takeWhile more =
      tracked.takeWhile closed ++ (tracked.dropWhile closed).takeWhile more := by
  induction tracked with
  | nil => rfl
  | cons head tail ih =>
      by_cases headClosed : closed head = true
      · simp only [List.takeWhile_cons, List.dropWhile_cons, headClosed, if_true,
          grows head headClosed, ih, List.cons_append]
      · simp only [Bool.not_eq_true] at headClosed
        simp [List.takeWhile_cons, headClosed]

theorem dropWhile_more {tracked : List Message} {closed more : Message → Bool}
    (grows : ∀ message, closed message = true → more message = true) :
    tracked.dropWhile more = (tracked.dropWhile closed).dropWhile more := by
  induction tracked with
  | nil => rfl
  | cons head tail ih =>
      by_cases headClosed : closed head = true
      · simp only [List.dropWhile_cons, headClosed, if_true, grows head headClosed]
        exact ih
      · simp only [Bool.not_eq_true] at headClosed
        simp [List.dropWhile_cons, headClosed]

/-- The finished messages in front leave the others as they are. -/
theorem filter_dropWhile (tracked : List Message) (closed : Message → Bool) :
    tracked.filter closed =
      tracked.takeWhile closed ++ (tracked.dropWhile closed).filter closed := by
  conv => lhs; rw [← List.takeWhile_append_dropWhile (p := closed) (l := tracked)]
  rw [List.filter_append]
  congr 1
  apply List.filter_eq_self.mpr
  intro message member
  exact List.mem_takeWhile_imp member

theorem filter_not_dropWhile (tracked : List Message) (closed : Message → Bool) :
    (tracked.filter fun message => !closed message) =
      (tracked.dropWhile closed).filter fun message => !closed message := by
  conv => lhs; rw [← List.takeWhile_append_dropWhile (p := closed) (l := tracked)]
  rw [List.filter_append]
  have none : ((tracked.takeWhile closed).filter fun message => !closed message) = [] := by
    apply List.filter_eq_nil_iff.mpr
    intro message member
    simp [List.mem_takeWhile_imp member]
  rw [none, List.nil_append]

/-- An unfinished message does not stand in front of the first unfinished one. -/
theorem mem_dropWhile_of_open {tracked : List Message} {closed : Message → Bool}
    {message : Message} (member : message ∈ tracked) (opened : closed message = false) :
    message ∈ tracked.dropWhile closed := by
  rw [← List.takeWhile_append_dropWhile (p := closed) (l := tracked)] at member
  cases List.mem_append.mp member with
  | inl inFront =>
      rw [List.mem_takeWhile_imp inFront] at opened
      cases opened
  | inr behind => exact behind

theorem mem_inFlight_of {tracked : List Message} {closed : Message → Bool} {message : Message}
    (member : message ∈ tracked) (opened : closed message = false) :
    message.offset ∈ (of tracked closed).inFlight := by
  refine List.mem_map_of_mem (List.mem_filter.mpr ⟨mem_dropWhile_of_open member opened, ?_⟩)
  simp [opened]

/-- Finishing a message that was unfinished keeps the law, and releases what the prefix
of finished messages gains. -/
theorem of_complete {tracked : List Message} {closed : Message → Bool} {message : Message}
    (rising : Rising tracked) (member : message ∈ tracked)
    (opened : closed message = false) :
    (of tracked closed).complete message =
      ((tracked.dropWhile closed).takeWhile (closing closed message),
        of tracked (closing closed message)) := by
  have grows : ∀ other, closed other = true → closing closed message other = true := by
    intro other otherClosed
    exact closing_of_closed otherClosed message
  have openRising : Rising (tracked.dropWhile closed) :=
    rising.sublist (List.dropWhile_sublist closed)
  have openMem := mem_dropWhile_of_open member opened
  have stillOpen := filter_inFlight closed openRising openMem
  have finished := insertMessage_filter openRising openMem opened
  have released := takeWhile_isBelow (closing closed message) openRising
  have rest : (of tracked (closing closed message)).finished =
      ((tracked.dropWhile closed).filter (closing closed message)).drop
        ((tracked.dropWhile closed).takeWhile (closing closed message)).length := by
    rw [filter_dropWhile _ (closing closed message), List.drop_left]
    unfold of
    rw [dropWhile_more grows]
  have inFlight : (of tracked (closing closed message)).inFlight =
      ((tracked.dropWhile closed).filter fun other => !closing closed message other).map
        Message.offset := by
    rw [filter_not_dropWhile _ (closing closed message)]
    unfold of
    rw [dropWhile_more grows]
  unfold complete
  simp only [of] at stillOpen finished ⊢
  rw [stillOpen, finished, released]
  refine Prod.ext rfl ?_
  exact Ledger.mk.injEq .. |>.mpr ⟨inFlight.symm, rest.symm⟩

end Scribe.Delivery.Ledger
