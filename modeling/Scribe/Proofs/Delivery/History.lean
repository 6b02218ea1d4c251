import Mathlib.Data.List.Induction
import Mathlib.Data.List.Nodup
import Scribe.Delivery.Dispatch

/-!
# Reading a history

The history of a delivery loop is the list of its events, the first one first.  It tells
which messages were delivered, which were committed, and what was last done with a
message.  The questions asked here all split along an append, so that what is known of a
history can be carried over to the next step.
-/

namespace Scribe.Delivery

open Scribe.Broker

/-! ## Single events -/

namespace Event

/-- The message that an event brings from the consumer. -/
def delivered? : Event → Option Message
  | .received message => some message
  | _ => none

/-- The message whose commit an event reports as accepted. -/
def committed? : Event → Option Message
  | .committed message => some message
  | _ => none

/-- The message that is lost with its worker. -/
def crashed? : Event → Option Message
  | .crashed message => some message
  | _ => none

/-- The message that the consumer was asked to commit, whatever it answered. -/
def asked? : Event → Option Message
  | .committed message => some message
  | .commitFailed message => some message
  | _ => none

/-- The message whose handling an event tells about. -/
def subject? : Event → Option Message
  | .started message => some message
  | .finished outcome => some outcome.message
  | .crashed message => some message
  | .redelivered message => some message
  | _ => none

/-- The outcome that an event reports. -/
def outcome? : Event → Option Outcome
  | .finished outcome => some outcome
  | _ => none

/-- An event that moves no message. -/
def IsSilent (event : Event) : Prop :=
  event.delivered? = none ∧ event.subject? = none ∧ event.asked? = none

end Event

/-! ## Order and difference of messages -/

/-- In each partition the offsets rise from message to message. -/
def Ascending (messages : List Message) : Prop :=
  messages.Pairwise fun earlier later =>
    Place.of earlier = Place.of later → earlier.offset < later.offset

/-- Where a message stands: its partition and its offset there. -/
def position (message : Message) : Place × Int :=
  (Place.of message, message.offset)

/-- No partition has two messages at one offset. -/
def Distinct (messages : List Message) : Prop :=
  (messages.map position).Nodup

instance (messages : List Message) : Decidable (Ascending messages) :=
  inferInstanceAs (Decidable (List.Pairwise _ messages))

instance (messages : List Message) : Decidable (Distinct messages) :=
  inferInstanceAs (Decidable (List.Nodup _))

theorem Ascending.distinct {messages : List Message} (ascending : Ascending messages) :
    Distinct messages := by
  apply List.pairwise_map.mpr
  apply List.Pairwise.imp _ ascending
  intro earlier later rises equal
  have samePlace : Place.of earlier = Place.of later := congrArg Prod.fst equal
  have sameOffset : earlier.offset = later.offset := congrArg Prod.snd equal
  have := rises samePlace
  omega

theorem Ascending.left {early late : List Message} (ascending : Ascending (early ++ late)) :
    Ascending early :=
  (List.pairwise_append.mp ascending).1

theorem Distinct.left {early late : List Message} (distinct : Distinct (early ++ late)) :
    Distinct early := by
  unfold Distinct at distinct
  rw [List.map_append] at distinct
  exact (List.nodup_append.mp distinct).1

theorem Distinct.nodup {messages : List Message} (distinct : Distinct messages) :
    messages.Nodup :=
  List.Nodup.of_map position distinct

/-- The messages of one partition. -/
def inPlace (place : Place) (messages : List Message) : List Message :=
  messages.filter fun message => decide (Place.of message = place)

@[simp] theorem inPlace_nil (place : Place) : inPlace place [] = [] := rfl

@[simp] theorem inPlace_append (place : Place) (early late : List Message) :
    inPlace place (early ++ late) = inPlace place early ++ inPlace place late := by
  simp [inPlace]

@[simp] theorem mem_inPlace {place : Place} {messages : List Message} {message : Message} :
    message ∈ inPlace place messages ↔ message ∈ messages ∧ Place.of message = place := by
  simp [inPlace]

theorem inPlace_singleton_self (message : Message) :
    inPlace (Place.of message) [message] = [message] := by
  simp [inPlace]

theorem inPlace_singleton_other {place : Place} {message : Message}
    (other : Place.of message ≠ place) : inPlace place [message] = [] := by
  simp [inPlace, other]

/-- Within one partition an ascending list has rising offsets. -/
theorem Ascending.rising {messages : List Message} (ascending : Ascending messages)
    (place : Place) :
    (inPlace place messages).Pairwise fun earlier later => earlier.offset < later.offset := by
  have filtered := ascending.filter fun message => decide (Place.of message = place)
  apply List.Pairwise.imp_of_mem _ filtered
  intro earlier later earlierMem laterMem rises
  have earlierPlace := (mem_inPlace.mp earlierMem).2
  have laterPlace := (mem_inPlace.mp laterMem).2
  exact rises (earlierPlace.trans laterPlace.symm)

/-! ## Whole histories -/

namespace History

/-- The delivered messages in order. -/
def delivered (events : List Event) : List Message := events.filterMap Event.delivered?

/-- The messages whose commit was accepted, in order. -/
def committed (events : List Event) : List Message := events.filterMap Event.committed?

/-- The messages that were lost with their workers. -/
def crashed (events : List Event) : List Message := events.filterMap Event.crashed?

/-- What was last done with a message. -/
def latest? (message : Message) (events : List Event) : Option Event :=
  (events.filter fun event => decide (event.subject? = some message)).getLast?

/-- The latest outcome of a message. -/
def outcome? (message : Message) (events : List Event) : Option Disposition :=
  ((events.filterMap Event.outcome?).filter fun outcome =>
    decide (outcome.message = message)).getLast?.map Outcome.disposition

/-- The last commit that the consumer was asked for. -/
def asked? (events : List Event) : Option Event :=
  (events.filter fun event => event.asked?.isSome).getLast?

@[simp] theorem delivered_nil : delivered [] = [] := rfl
@[simp] theorem committed_nil : committed [] = [] := rfl
@[simp] theorem crashed_nil : crashed [] = [] := rfl
@[simp] theorem latest?_nil (message : Message) : latest? message [] = none := rfl
@[simp] theorem outcome?_nil (message : Message) : outcome? message [] = none := rfl
@[simp] theorem asked?_nil : asked? [] = none := rfl

@[simp] theorem delivered_append (early late : List Event) :
    delivered (early ++ late) = delivered early ++ delivered late :=
  List.filterMap_append

theorem ascending_delivered_left {early late : List Event}
    (ascending : Ascending (delivered (early ++ late))) : Ascending (delivered early) := by
  rw [delivered_append] at ascending
  exact ascending.left

@[simp] theorem committed_append (early late : List Event) :
    committed (early ++ late) = committed early ++ committed late :=
  List.filterMap_append

@[simp] theorem crashed_append (early late : List Event) :
    crashed (early ++ late) = crashed early ++ crashed late :=
  List.filterMap_append

theorem committed_of_unasked {events : List Event}
    (unasked : ∀ event ∈ events, event.asked? = none) : committed events = [] := by
  apply List.filterMap_eq_nil_iff.mpr
  intro event member
  have notAsked := unasked event member
  cases event with
  | committed message => cases notAsked
  | _ => rfl

theorem mem_crashed {message : Message} {events : List Event} :
    message ∈ crashed events ↔ .crashed message ∈ events := by
  simp only [crashed, List.mem_filterMap]
  constructor
  · rintro ⟨event, member, equal⟩
    cases event with
    | crashed found =>
        cases equal
        exact member
    | _ => cases equal
  · intro member
    exact ⟨.crashed message, member, rfl⟩

/-- Events about other messages leave the last word on a message as it was. -/
theorem latest?_append_of_other {message : Message} {early late : List Event}
    (other : ∀ event ∈ late, event.subject? ≠ some message) :
    latest? message (early ++ late) = latest? message early := by
  have none : (late.filter fun event => decide (event.subject? = some message)) = [] := by
    apply List.filter_eq_nil_iff.mpr
    intro event member
    simpa using other event member
  simp [latest?, none]

/-- An event about a message is the last word on it. -/
theorem latest?_append_self {message : Message} {event : Event} (early : List Event)
    (about : event.subject? = some message) :
    latest? message (early ++ [event]) = some event := by
  simp [latest?, about]

theorem asked?_append_of_none {early late : List Event}
    (none : ∀ event ∈ late, event.asked? = none) : asked? (early ++ late) = asked? early := by
  have nothing : (late.filter fun event => event.asked?.isSome) = [] := by
    apply List.filter_eq_nil_iff.mpr
    intro event member
    simp [none event member]
  simp [asked?, nothing]

theorem asked?_append_self {event : Event} (early : List Event)
    (asks : event.asked?.isSome = true) : asked? (early ++ [event]) = some event := by
  simp [asked?, asks]

/-- The last word on a message stands somewhere, and nothing follows about the message. -/
theorem latest?_split {message : Message} {event : Event} {events : List Event}
    (found : latest? message events = some event) :
    ∃ early late, events = early ++ event :: late ∧ event.subject? = some message ∧
      ∀ other ∈ late, other.subject? ≠ some message := by
  induction events using List.reverseRecOn with
  | nil => cases found
  | append_singleton events last ih =>
      by_cases about : last.subject? = some message
      · rw [latest?_append_self events about] at found
        cases found
        refine ⟨events, [], rfl, about, ?_⟩
        intro other member
        cases member
      · have same : latest? message (events ++ [last]) = latest? message events := by
          apply latest?_append_of_other
          intro other member
          cases List.mem_singleton.mp member
          exact about
        rw [same] at found
        obtain ⟨early, late, split_, subject, others⟩ := ih found
        refine ⟨early, late ++ [last], ?_, subject, ?_⟩
        · rw [split_, List.append_assoc]
          rfl
        · intro other member
          rcases List.mem_append.mp member with inside | final
          · exact others other inside
          · cases List.mem_singleton.mp final
            exact about

/-- Without another outcome of a message its latest one stays. -/
theorem outcome?_append_of_unfinished {message : Message} {early late : List Event}
    (unfinished : ∀ outcome, .finished outcome ∈ late → outcome.message ≠ message) :
    outcome? message (early ++ late) = outcome? message early := by
  have none : ((late.filterMap Event.outcome?).filter fun outcome =>
      decide (outcome.message = message)) = [] := by
    apply List.filter_eq_nil_iff.mpr
    intro outcome member
    obtain ⟨event, reported, is⟩ := List.mem_filterMap.mp member
    cases event with
    | finished found =>
        cases is
        simpa using unfinished outcome reported
    | _ => cases is
  simp [outcome?, List.filterMap_append, none]

theorem outcome?_append_of_other {message : Message} {early late : List Event}
    (other : ∀ event ∈ late, event.subject? ≠ some message) :
    outcome? message (early ++ late) = outcome? message early := by
  apply outcome?_append_of_unfinished
  intro outcome reported same
  exact other _ reported (congrArg some same)

theorem outcome?_append_finished (early : List Event) (outcome : Outcome) :
    outcome? outcome.message (early ++ [.finished outcome]) = some outcome.disposition := by
  simp [outcome?, List.filterMap_append, Event.outcome?]

/-- A message that finished last has that outcome. -/
theorem outcome?_of_finished {message : Message} {disposition : Disposition}
    {events : List Event}
    (found : latest? message events = some (.finished ⟨message, disposition⟩)) :
    outcome? message events = some disposition := by
  obtain ⟨early, late, split_, _, others⟩ := latest?_split found
  have regrouped : events = early ++ [.finished ⟨message, disposition⟩] ++ late := by
    rw [split_]
    simp
  rw [regrouped, outcome?_append_of_other others]
  exact outcome?_append_finished early ⟨message, disposition⟩

/-- Nothing was done with a message that no event is about. -/
theorem outcome?_of_new {message : Message} {events : List Event}
    (new : latest? message events = none) : outcome? message events = none := by
  have nothing := List.filter_eq_nil_iff.mp (List.getLast?_eq_none_iff.mp new)
  have same : outcome? message ([] ++ events) = outcome? message [] := by
    apply outcome?_append_of_other
    intro event member about
    exact nothing event member (decide_eq_true about)
  exact same

/-! ## Silent events -/

theorem delivered_of_silent {events : List Event} (silent : ∀ event ∈ events, event.IsSilent) :
    delivered events = [] := by
  apply List.filterMap_eq_nil_iff.mpr
  intro event member
  exact (silent event member).1

theorem committed_of_silent {events : List Event} (silent : ∀ event ∈ events, event.IsSilent) :
    committed events = [] :=
  committed_of_unasked fun event member => (silent event member).2.2

theorem crashed_of_silent {events : List Event} (silent : ∀ event ∈ events, event.IsSilent) :
    crashed events = [] := by
  apply List.filterMap_eq_nil_iff.mpr
  intro event member
  have noSubject := (silent event member).2.1
  cases event with
  | crashed message => cases noSubject
  | _ => rfl

theorem latest?_append_of_silent {message : Message} {early late : List Event}
    (silent : ∀ event ∈ late, event.IsSilent) :
    latest? message (early ++ late) = latest? message early := by
  apply latest?_append_of_other
  intro event member
  rw [(silent event member).2.1]
  exact (Option.some_ne_none message).symm

theorem asked?_append_of_silent {early late : List Event}
    (silent : ∀ event ∈ late, event.IsSilent) : asked? (early ++ late) = asked? early :=
  asked?_append_of_none fun event member => (silent event member).2.2

end History

end Scribe.Delivery
