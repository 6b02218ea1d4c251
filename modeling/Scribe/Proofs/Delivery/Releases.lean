import Scribe.Proofs.Delivery.Retained

/-!
# What a watermark releases

A watermark is told which messages are dispatched and which have finished, for any number of
partitions.  As long as the offsets of each partition rise and a message finishes at most once
and after it was dispatched, what has been released in a partition is the longest run of finished
messages from its start, whatever the order in which they finish and whatever happens in other
partitions.

A message may come back changed when it has finished, and it is released as it came back.  So the
dispatched messages are read here as they will have finished, which changes neither their
partitions nor their offsets; read like this the ledgers follow `Ledger.of`.
-/

namespace Scribe.Delivery

open Scribe.Broker

/-- Something that a watermark is told about a message. -/
inductive Notice
  | dispatched (message : Message)
  | finished (message : Message)

namespace Notice

/-- The message that is dispatched. -/
def dispatched? : Notice → Option Message
  | .dispatched message => some message
  | _ => none

/-- The message that has finished. -/
def finished? : Notice → Option Message
  | .finished message => some message
  | _ => none

end Notice

namespace Notices

/-- The dispatched messages in order. -/
def dispatched (notices : List Notice) : List Message := notices.filterMap Notice.dispatched?

/-- The messages that have finished, in the order in which they did. -/
def finished (notices : List Notice) : List Message := notices.filterMap Notice.finished?

@[simp] theorem dispatched_append (early late : List Notice) :
    dispatched (early ++ late) = dispatched early ++ dispatched late :=
  List.filterMap_append

@[simp] theorem finished_append (early late : List Notice) :
    finished (early ++ late) = finished early ++ finished late :=
  List.filterMap_append

@[simp] theorem dispatched_nil : dispatched [] = [] := rfl
@[simp] theorem finished_nil : finished [] = [] := rfl

@[simp] theorem dispatched_singleton (message : Message) :
    dispatched [.dispatched message] = [message] := rfl

@[simp] theorem finished_singleton (message : Message) :
    finished [.finished message] = [message] := rfl

@[simp] theorem dispatched_of_finished (message : Message) :
    dispatched [.finished message] = [] := rfl

@[simp] theorem finished_of_dispatched (message : Message) :
    finished [.dispatched message] = [] := rfl

/-- Whether a message has finished, in whatever form. -/
def hasFinished (notices : List Notice) (message : Message) : Bool :=
  decide (position message ∈ (finished notices).map position)

/-- Notices in the order that a watermark relies on: in each partition the dispatched offsets
rise, and a message finishes after it was dispatched and only once. -/
inductive Admissible : List Notice → Prop
  | nothing : Admissible []
  | dispatching {notices : List Notice} (admissible : Admissible notices) (message : Message)
      (above : ∀ other ∈ dispatched notices, Place.of other = Place.of message →
        other.offset < message.offset) :
      Admissible (notices ++ [.dispatched message])
  | finishing {notices : List Notice} (admissible : Admissible notices) (message : Message)
      (known : position message ∈ (dispatched notices).map position)
      (new : position message ∉ (finished notices).map position) :
      Admissible (notices ++ [.finished message])

/-- What is released on notices one after another, and the watermark that they leave. -/
def heed (notices : List Notice) : List Message × Watermark :=
  notices.foldl (fun sofar notice =>
    match notice with
    | .dispatched message => (sofar.1, sofar.2.track message)
    | .finished message =>
        (sofar.1 ++ (sofar.2.complete message).1, (sofar.2.complete message).2)) ([], {})

/-- Everything that is released, in order. -/
def released (notices : List Notice) : List Message := (heed notices).1

/-- The watermark that is left. -/
def watermark (notices : List Notice) : Watermark := (heed notices).2

theorem released_dispatched (notices : List Notice) (message : Message) :
    released (notices ++ [.dispatched message]) = released notices := by
  simp [released, heed, List.foldl_append]

theorem watermark_dispatched (notices : List Notice) (message : Message) :
    watermark (notices ++ [.dispatched message]) = (watermark notices).track message := by
  simp [watermark, heed, List.foldl_append]

theorem released_finished (notices : List Notice) (message : Message) :
    released (notices ++ [.finished message]) =
      released notices ++ ((watermark notices).complete message).1 := by
  simp [released, watermark, heed, List.foldl_append]

theorem watermark_finished (notices : List Notice) (message : Message) :
    watermark (notices ++ [.finished message]) =
      ((watermark notices).complete message).2 := by
  simp [watermark, heed, List.foldl_append]

/-! ## Admissible notices -/

theorem Admissible.ascending {notices : List Notice} (admissible : Admissible notices) :
    Ascending (dispatched notices) := by
  induction admissible with
  | nothing => exact List.Pairwise.nil
  | dispatching earlier message above ih =>
      rw [dispatched_append, dispatched_singleton]
      apply List.pairwise_append.mpr
      refine ⟨ih, List.pairwise_singleton _ message, ?_⟩
      intro other member last isLast samePlace
      obtain rfl := List.mem_singleton.mp isLast
      exact above other member samePlace
  | finishing earlier message known new ih =>
      rw [dispatched_append, dispatched_of_finished, List.append_nil]
      exact ih

theorem Admissible.distinct {notices : List Notice} (admissible : Admissible notices) :
    Distinct (finished notices) := by
  induction admissible with
  | nothing => exact List.nodup_nil
  | dispatching earlier message above ih =>
      rw [finished_append, finished_of_dispatched, List.append_nil]
      exact ih
  | finishing earlier message known new ih =>
      unfold Distinct
      rw [finished_append, finished_singleton, List.map_append, List.map_singleton]
      apply List.nodup_append.mpr
      refine ⟨ih, List.nodup_singleton _, ?_⟩
      intro other member last isLast same
      rw [List.mem_singleton.mp isLast] at same
      exact new (same ▸ member)

/-- What has finished was dispatched. -/
theorem Admissible.known {notices : List Notice} (admissible : Admissible notices)
    {message : Message} (member : message ∈ finished notices) :
    position message ∈ (dispatched notices).map position := by
  induction admissible with
  | nothing => cases member
  | dispatching earlier last above ih =>
      rw [finished_append, finished_of_dispatched, List.append_nil] at member
      rw [dispatched_append, List.map_append]
      exact List.mem_append_left _ (ih member)
  | finishing earlier last known new ih =>
      rw [finished_append, finished_singleton] at member
      rw [dispatched_append, dispatched_of_finished, List.append_nil]
      rcases List.mem_append.mp member with before | isLast
      · exact ih before
      · rw [List.mem_singleton.mp isLast]
        exact known

/-! ## Messages as they will have finished -/

/-- A reading of dispatched messages in which each is what it will have finished as. -/
structure Foresees (foreseen : Message → Message) (notices : List Notice) : Prop where
  position : ∀ message, position (foreseen message) = position message
  finished : ∀ message ∈ finished notices, ∀ other, Delivery.position other =
    Delivery.position message → foreseen other = message

theorem Foresees.left {foreseen : Message → Message} {early late : List Notice}
    (foresees : Foresees foreseen (early ++ late)) : Foresees foreseen early where
  position := foresees.position
  finished := by
    intro message member
    apply foresees.finished
    rw [finished_append]
    exact List.mem_append_left _ member

theorem Foresees.place {foreseen : Message → Message} {notices : List Notice}
    (foresees : Foresees foreseen notices) (message : Message) :
    Place.of (foreseen message) = Place.of message :=
  congrArg Prod.fst (foresees.position message)

theorem Foresees.offset {foreseen : Message → Message} {notices : List Notice}
    (foresees : Foresees foreseen notices) (message : Message) :
    (foreseen message).offset = message.offset :=
  congrArg Prod.snd (foresees.position message)

/-- The message that has finished where a message stands, and as long as there is none that
message itself. -/
def asFinished (notices : List Notice) (message : Message) : Message :=
  ((finished notices).find? fun other => decide (position other = position message)).getD message

theorem foresees_asFinished {notices : List Notice} (distinct : Distinct (finished notices)) :
    Foresees (asFinished notices) notices where
  position := by
    intro message
    unfold asFinished
    cases found : (finished notices).find? fun other =>
        decide (position other = position message) with
    | none => rfl
    | some other => simpa using List.find?_some found
  finished := by
    intro message member other same
    unfold asFinished
    cases found : (finished notices).find? fun candidate =>
        decide (position candidate = position other) with
    | none =>
        have differs := List.find?_eq_none.mp found message member
        simp [same] at differs
    | some candidate =>
        have stands : position candidate = position other := by
          simpa using List.find?_some found
        exact List.inj_on_of_nodup_map distinct (List.mem_of_find?_eq_some found) member
          (stands.trans same)

/-! ## The law -/

/-- Whether exactly this message has finished. -/
def isFinished (notices : List Notice) (message : Message) : Bool :=
  decide (message ∈ finished notices)

theorem Foresees.isFinished_foreseen {foreseen : Message → Message} {notices : List Notice}
    (foresees : Foresees foreseen notices) (message : Message) :
    isFinished notices (foreseen message) = hasFinished notices message := by
  apply decide_eq_decide.mpr
  constructor
  · intro member
    rw [← foresees.position]
    exact List.mem_map_of_mem member
  · intro member
    obtain ⟨other, inside, same⟩ := List.mem_map.mp member
    rw [foresees.finished other inside message same.symm]
    exact inside

/-- The messages of a partition in the order of their dispatch, as they will have finished. -/
def line (foreseen : Message → Message) (notices : List Notice) (place : Place) : List Message :=
  (inPlace place (dispatched notices)).map foreseen

/-- The watermark knows of each partition the messages behind the first unfinished one, and has
released those before it. -/
structure Settled (foreseen : Message → Message) (notices : List Notice) : Prop where
  wf : (watermark notices).WF
  ledgers : ∀ place, (watermark notices).ledger place =
    Ledger.of (line foreseen notices place) (isFinished notices)
  released : ∀ place, inPlace place (released notices) =
    (line foreseen notices place).takeWhile (isFinished notices)
  outstanding : (watermark notices).outstanding + (Notices.released notices).length =
    (dispatched notices).length

theorem settled_nil (foreseen : Message → Message) : Settled foreseen [] where
  wf := Watermark.wf_empty
  ledgers := fun _ => rfl
  released := fun _ => rfl
  outstanding := rfl

theorem line_rising {foreseen : Message → Message} {notices : List Notice}
    (foresees : Foresees foreseen notices) (admissible : Admissible notices) (place : Place) :
    Ledger.Rising (line foreseen notices place) := by
  apply List.pairwise_map.mpr
  apply (admissible.ascending.rising place).imp
  intro earlier later rises
  rw [foresees.offset, foresees.offset]
  exact rises

theorem isFinished_dispatched (notices : List Notice) (message : Message) :
    isFinished (notices ++ [.dispatched message]) = isFinished notices := by
  funext other
  simp [isFinished]

theorem isFinished_finished (notices : List Notice) (message : Message) :
    isFinished (notices ++ [.finished message]) =
      Ledger.closing (isFinished notices) message := by
  funext other
  simp [isFinished, Ledger.closing]

theorem line_dispatched_self (foreseen : Message → Message) (notices : List Notice)
    (message : Message) :
    line foreseen (notices ++ [.dispatched message]) (Place.of message) =
      line foreseen notices (Place.of message) ++ [foreseen message] := by
  simp [line, inPlace_singleton_self]

theorem line_dispatched_other (foreseen : Message → Message) (notices : List Notice)
    {message : Message} {place : Place} (differ : Place.of message ≠ place) :
    line foreseen (notices ++ [.dispatched message]) place = line foreseen notices place := by
  simp [line, inPlace_singleton_other differ]

theorem line_finished (foreseen : Message → Message) (notices : List Notice) (message : Message)
    (place : Place) :
    line foreseen (notices ++ [.finished message]) place = line foreseen notices place := by
  simp [line]

/-- A message that is dispatched joins the end of its line. -/
theorem Settled.dispatching {foreseen : Message → Message} {notices : List Notice}
    {message : Message} (settled : Settled foreseen notices)
    (foresees : Foresees foreseen (notices ++ [.dispatched message]))
    (admissible : Admissible (notices ++ [.dispatched message]))
    (opened : isFinished notices (foreseen message) = false)
    (above : ∀ offset ∈ (watermark notices).inFlight (Place.of message),
      offset < message.offset) :
    Settled foreseen (notices ++ [.dispatched message]) where
  wf := by
    rw [watermark_dispatched]
    exact settled.wf.track message
  ledgers := by
    intro place
    rw [watermark_dispatched, isFinished_dispatched]
    by_cases here : place = Place.of message
    · subst here
      have rising := line_rising foresees admissible (Place.of message)
      rw [line_dispatched_self] at rising ⊢
      rw [Watermark.ledger_track_self, settled.ledgers, ← foresees.offset]
      exact Ledger.of_track rising opened
    · rw [Watermark.ledger_track_other _ here, settled.ledgers,
        line_dispatched_other _ _ (Ne.symm here)]
  released := by
    intro place
    rw [released_dispatched, isFinished_dispatched, settled.released]
    by_cases here : place = Place.of message
    · subst here
      rw [line_dispatched_self, Ledger.takeWhile_append_of_open opened]
    · rw [line_dispatched_other _ _ (Ne.symm here)]
  outstanding := by
    have grown := Watermark.outstanding_track (watermark notices) message
    rw [Ledger.size_track above] at grown
    have balance := settled.outstanding
    rw [watermark_dispatched, released_dispatched, dispatched_append, dispatched_singleton,
      List.length_append, List.length_singleton]
    omega

/-- A message that finishes lengthens the run of finished messages of its line, or is held
back. -/
theorem Settled.finishing {foreseen : Message → Message} {notices : List Notice}
    {message : Message} (settled : Settled foreseen notices)
    (foresees : Foresees foreseen notices) (admissible : Admissible notices)
    (member : message ∈ line foreseen notices (Place.of message))
    (opened : isFinished notices message = false) :
    Settled foreseen (notices ++ [.finished message]) := by
  have rising := line_rising foresees admissible (Place.of message)
  have completes := Ledger.of_complete rising member opened
  have shrunk := Ledger.size_complete rising member opened
  have open_ : message.offset ∈ (watermark notices).inFlight (Place.of message) := by
    rw [Watermark.inFlight, settled.ledgers]
    exact Ledger.mem_inFlight_of member opened
  rw [← settled.ledgers] at completes shrunk
  have own : ∀ out ∈ ((watermark notices).complete message).1,
      Place.of out = Place.of message := by
    intro out released
    rw [Watermark.complete_fst open_, completes] at released
    have dropped := (List.takeWhile_prefix _).mem released
    obtain ⟨source, lies, rfl⟩ := List.mem_map.mp ((List.dropWhile_sublist _).mem dropped)
    rw [foresees.place]
    exact (mem_inPlace.mp lies).2
  have elsewhere : ∀ place, place ≠ Place.of message →
      ∀ other ∈ line foreseen notices place, isFinished notices other =
        Ledger.closing (isFinished notices) message other := by
    intro place foreign other lies
    symm
    apply Ledger.closing_of_ne
    rintro rfl
    obtain ⟨source, inside, same⟩ := List.mem_map.mp lies
    rw [← same, foresees.place] at foreign
    exact foreign (mem_inPlace.mp inside).2.symm
  constructor
  · rw [watermark_finished]
    exact settled.wf.complete open_
  · intro place
    rw [watermark_finished, isFinished_finished, line_finished]
    by_cases here : place = Place.of message
    · subst here
      rw [Watermark.ledger_complete_self open_, completes]
    · rw [Watermark.ledger_complete_other open_ here, settled.ledgers]
      exact Ledger.of_congr (elsewhere place here)
  · intro place
    rw [released_finished, isFinished_finished, line_finished, inPlace_append, settled.released]
    by_cases here : place = Place.of message
    · subst here
      rw [inPlace_of_own own, Watermark.complete_fst open_, completes]
      symm
      apply Ledger.takeWhile_more
      intro other finished
      exact Ledger.closing_of_closed finished message
    · have foreign : inPlace place ((watermark notices).complete message).1 = [] := by
        apply inPlace_of_foreign
        intro out released same
        exact here (same.symm.trans (own out released))
      rw [foreign, List.append_nil]
      exact Ledger.takeWhile_congr (elsewhere place here)
  · have left := Watermark.outstanding_complete settled.wf open_
    rw [← Watermark.complete_fst open_] at shrunk
    have balance := settled.outstanding
    rw [watermark_finished, released_finished, dispatched_append, dispatched_of_finished,
      List.append_nil, List.length_append]
    omega

/-- Whatever the notices are, the watermark has settled them as it should. -/
theorem Admissible.settled {notices : List Notice} (admissible : Admissible notices)
    {foreseen : Message → Message} (foresees : Foresees foreseen notices) :
    Settled foreseen notices := by
  induction admissible with
  | nothing => exact settled_nil foreseen
  | @dispatching notices earlier message above ih =>
      have settled := ih foresees.left
      have admissible := Admissible.dispatching earlier message above
      -- Nothing that has finished stands where the message does.
      have opened : isFinished notices (foreseen message) = false := by
        apply decide_eq_false
        intro finished
        obtain ⟨other, member, same⟩ := List.mem_map.mp (earlier.known finished)
        rw [foresees.position] at same
        have rises := above other member (congrArg Prod.fst same)
        have level : other.offset = message.offset := congrArg Prod.snd same
        omega
      refine settled.dispatching foresees admissible opened ?_
      intro offset flying
      rw [Watermark.inFlight, settled.ledgers] at flying
      obtain ⟨other, waits, rfl⟩ := List.mem_map.mp flying
      have lies := (List.dropWhile_sublist _).mem (List.mem_filter.mp waits).1
      obtain ⟨source, inside, rfl⟩ := List.mem_map.mp lies
      obtain ⟨member, samePlace⟩ := mem_inPlace.mp inside
      rw [foresees.offset]
      exact above source member samePlace
  | @finishing notices earlier message known new ih =>
      have settled := ih foresees.left
      refine settled.finishing foresees.left earlier ?_ ?_
      · obtain ⟨source, member, same⟩ := List.mem_map.mp known
        have is : foreseen source = message :=
          foresees.finished message (by simp) source same
        exact List.mem_map.mpr ⟨source, mem_inPlace.mpr ⟨member, congrArg Prod.fst same⟩, is⟩
      · apply decide_eq_false
        intro finished
        exact new (List.mem_map_of_mem finished)

end Notices

open Notices

/-- What is released follows the order of dispatch: in each partition it stands where the longest
run of finished messages from the start stands, each message is released as it has finished, and
what is dispatched and not released is outstanding. -/
structure ReleasesInOrder (notices : List Notice) : Prop where
  first : ∀ place, (inPlace place (released notices)).map Message.offset =
    ((inPlace place (dispatched notices)).takeWhile (hasFinished notices)).map Message.offset
  asFinished : ∀ message ∈ released notices, message ∈ finished notices
  outstanding : (watermark notices).outstanding + (released notices).length =
    (dispatched notices).length

/-- Whatever is dispatched and in whatever order it finishes: as long as the offsets of each
partition rise, and a message finishes once and after its dispatch, releases are in order. -/
theorem releases_in_order (notices : List Notice) (admissible : Admissible notices) :
    ReleasesInOrder notices := by
  have foresees := foresees_asFinished admissible.distinct
  have settled := admissible.settled foresees
  constructor
  · intro place
    have same : isFinished notices ∘ Notices.asFinished notices = hasFinished notices := by
      funext message
      exact foresees.isFinished_foreseen message
    rw [settled.released, line, List.takeWhile_map, same, List.map_map]
    apply List.map_congr_left
    intro message _
    exact foresees.offset message
  · intro message member
    have here : message ∈ inPlace (Place.of message) (released notices) :=
      mem_inPlace.mpr ⟨member, rfl⟩
    rw [settled.released] at here
    have ended : isFinished notices message = true := List.mem_takeWhile_imp here
    exact of_decide_eq_true ended
  · exact settled.outstanding

/-- Two messages of one partition finish in the wrong order, the later one in another form, and
one of another partition finishes between them. -/
theorem releases_in_order_changed :
    let message (partition offset : Int) (id : String) : Message :=
      ⟨"stt.jobs", partition, offset, none, .empty, [], id⟩
    let notices : List Notice :=
      [.dispatched (message 0 5 "a"), .dispatched (message 1 3 "b"),
        .dispatched (message 0 7 "c"), .finished (message 0 7 "d"),
        .finished (message 1 3 "b"), .finished (message 0 5 "a")]
    released notices = [message 1 3 "b", message 0 5 "a", message 0 7 "d"] ∧
      ReleasesInOrder notices := by
  intro message notices
  refine ⟨by decide, releases_in_order notices ?_⟩
  have first := Admissible.nothing.dispatching (message 0 5 "a") (by decide)
  have second := first.dispatching (message 1 3 "b") (by decide)
  have third := second.dispatching (message 0 7 "c") (by decide)
  have fourth := third.finishing (message 0 7 "d") (by decide) (by decide)
  have fifth := fourth.finishing (message 1 3 "b") (by decide) (by decide)
  exact fifth.finishing (message 0 5 "a") (by decide) (by decide)

end Scribe.Delivery
