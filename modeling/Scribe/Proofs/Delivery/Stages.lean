import Scribe.Proofs.Delivery.Custody

/-!
# The life of a message

A message is handed to a worker when it is new or was redelivered, its outcome is reported
by the worker that has it, it is redelivered when that outcome did not settle it, and it is
committed when its last outcome did.  `Fits` says which event may follow a history, and
`lawful` that every event of a run fits what was before it.  The proof follows the messages
from holder to holder: what was last done with a message tells where it is.
-/

namespace Scribe.Delivery

open Scribe.Broker

namespace History

/-- The last outcome of a message settles it, and it was not handed out since. -/
def HasSettled (events : List Event) (message : Message) : Prop :=
  ∃ disposition, latest? message events = some (.finished ⟨message, disposition⟩) ∧
    disposition.settles = true

/-- A message that nothing was done with, or that came back. -/
def IsFree (events : List Event) (message : Message) : Prop :=
  latest? message events = none ∨ latest? message events = some (.redelivered message)

/-- A commit may be asked for a settled message; after a refused one it is the same
message again. -/
def MayAsk (events : List Event) (message : Message) : Prop :=
  HasSettled events message ∧
    ∀ refused, asked? events = some (.commitFailed refused) → refused = message

/-- Which events may follow a history. -/
def Fits (events : List Event) : Event → Prop
  | .started message => IsFree events message
  | .finished outcome => latest? outcome.message events = some (.started outcome.message)
  | .crashed message => latest? message events = some (.started message)
  | .redelivered message =>
      ∃ disposition, latest? message events = some (.finished ⟨message, disposition⟩) ∧
        disposition.settles = false
  | .committed message => MayAsk events message
  | .commitFailed message => MayAsk events message
  | _ => True

/-- Every event fits what was before it. -/
def Lawful (events : List Event) : Prop :=
  ∀ early event late, events = early ++ event :: late → Fits early event

theorem lawful_nil : Lawful [] := by
  intro early event late split_
  cases early <;> cases split_

theorem Lawful.append_singleton {events : List Event} (lawful : Lawful events) {event : Event}
    (fits : Fits events event) : Lawful (events ++ [event]) := by
  intro early other late split_
  cases late using List.reverseRecOn with
  | nil =>
      obtain ⟨same, here⟩ := List.append_inj' split_ rfl
      cases here
      rw [← same]
      exact fits
  | append_singleton late final =>
      have regrouped : events ++ [event] = (early ++ other :: late) ++ [final] := by
        simpa using split_
      exact lawful early other late (List.append_inj' regrouped rfl).1

theorem Fits.of_silent {events : List Event} {event : Event} (silent : event.IsSilent) :
    Fits events event := by
  obtain ⟨_, noSubject, notAsked⟩ := silent
  cases event with
  | started message => cases noSubject
  | finished outcome => cases noSubject
  | crashed message => cases noSubject
  | redelivered message => cases noSubject
  | committed message => cases notAsked
  | commitFailed message => cases notAsked
  | _ => trivial

theorem Lawful.append_silent {events later : List Event} (lawful : Lawful events)
    (silent : ∀ event ∈ later, event.IsSilent) : Lawful (events ++ later) := by
  induction later using List.reverseRecOn with
  | nil =>
      rw [List.append_nil]
      exact lawful
  | append_singleton later event ih =>
      rw [← List.append_assoc]
      apply Lawful.append_singleton
      · apply ih
        intro other member
        exact silent other (List.mem_append_left _ member)
      · apply Fits.of_silent
        exact silent event (List.mem_append_right _ List.mem_cons_self)

/-! ### What a lawful history tells -/

theorem outcome?_of_settled {events : List Event} {message : Message}
    (settled : HasSettled events message) :
    ∃ disposition, outcome? message events = some disposition ∧
      disposition.settles = true := by
  obtain ⟨disposition, finished, settles⟩ := settled
  exact ⟨disposition, outcome?_of_finished finished, settles⟩

/-- A message that came back had an unresolved outcome when it did. -/
theorem Lawful.redelivered_split {events : List Event} {message : Message}
    (lawful : Lawful events) (back : latest? message events = some (.redelivered message)) :
    ∃ early late, events = early ++ .redelivered message :: late ∧
      (∀ other ∈ late, other.subject? ≠ some message) ∧
      outcome? message early = some .unresolved := by
  obtain ⟨early, late, split_, _, others⟩ := latest?_split back
  refine ⟨early, late, split_, others, ?_⟩
  obtain ⟨disposition, finished, open_⟩ := lawful early _ late split_
  rw [outcome?_of_finished finished]
  cases disposition with
  | unresolved => rfl
  | _ => cases open_

theorem Lawful.outcome?_of_redelivered {events : List Event} {message : Message}
    (lawful : Lawful events) (back : latest? message events = some (.redelivered message)) :
    outcome? message events = some .unresolved := by
  obtain ⟨early, late, split_, others, unresolved⟩ := lawful.redelivered_split back
  rw [split_, outcome?_append_of_unfinished]
  · exact unresolved
  · intro outcome reported same
    cases reported with
    | tail _ inside => exact others _ inside (congrArg some same)

/-- A message that is handed out again had an unresolved outcome that was taken, and
nothing was done with it since. -/
theorem Lawful.restarted {early late : List Event} {message : Message}
    (lawful : Lawful (early ++ .started message :: late))
    (before : .started message ∈ early) :
    ∃ first second, early = first ++ .redelivered message :: second ∧
      (∀ other ∈ second, other.subject? ≠ some message) ∧
      outcome? message first = some .unresolved := by
  have lawfulEarly : Lawful early := by
    intro front event back split_
    apply lawful front event (back ++ .started message :: late)
    rw [split_]
    simp
  rcases lawful early _ late rfl with new | back
  · have nothing := List.filter_eq_nil_iff.mp (List.getLast?_eq_none_iff.mp new)
    exact absurd (decide_eq_true rfl) (nothing _ before)
  · exact lawfulEarly.redelivered_split back

/-- What was handed out, is with no worker any more and was not lost, has an outcome. -/
theorem Lawful.finished_of_started {early late : List Event} {message : Message}
    (lawful : Lawful (early ++ .started message :: late))
    (kept : .crashed message ∉ late)
    (left : latest? message (early ++ .started message :: late) ≠ some (.started message)) :
    ∃ disposition, .finished ⟨message, disposition⟩ ∈ late := by
  have handed : ∀ quiet : List Event, (∀ other ∈ quiet, other.subject? ≠ some message) →
      latest? message (early ++ .started message :: quiet) = some (.started message) := by
    intro quiet others
    have regrouped : early ++ .started message :: quiet =
        early ++ [.started message] ++ quiet := by simp
    rw [regrouped, latest?_append_of_other others]
    exact latest?_append_self early rfl
  cases next : late.find? fun event => decide (event.subject? = some message) with
  | none =>
      have others := List.find?_eq_none.mp next
      exact absurd (handed late (by simpa using others)) left
  | some event =>
      obtain ⟨isAbout, quiet, rest, split_, others⟩ := List.find?_eq_some_iff_append.mp next
      have about : event.subject? = some message := of_decide_eq_true isAbout
      have started := handed quiet (by simpa using others)
      have member : event ∈ late := by
        rw [split_]
        simp
      have fits : Fits (early ++ .started message :: quiet) event := by
        apply lawful _ event rest
        rw [split_]
        simp
      cases event with
      | started other =>
          cases about
          rcases fits with new | back
          · rw [started] at new
            cases new
          · rw [started] at back
            cases back
      | finished outcome =>
          cases about
          exact ⟨outcome.disposition, member⟩
      | crashed other =>
          cases about
          exact absurd member kept
      | redelivered other =>
          cases about
          obtain ⟨disposition, finished, _⟩ := fits
          rw [started] at finished
          cases finished
      | _ => cases about

/-- After a refused commit the next one is for the same message. -/
theorem Lawful.asked_again {early between late : List Event} {event : Event}
    {refused message : Message}
    (lawful : Lawful (early ++ .commitFailed refused :: (between ++ event :: late)))
    (silent : ∀ other ∈ between, other.asked? = none) (about : event.asked? = some message) :
    message = refused := by
  have last : asked? (early ++ .commitFailed refused :: between) =
      some (.commitFailed refused) := by
    have regrouped : early ++ .commitFailed refused :: between =
        early ++ [.commitFailed refused] ++ between := by simp
    rw [regrouped, asked?_append_of_none silent]
    exact asked?_append_self early rfl
  have fits : Fits (early ++ .commitFailed refused :: between) event := by
    apply lawful _ event late
    simp
  cases event with
  | committed other =>
      cases about
      exact (fits.2 refused last).symm
  | commitFailed other =>
      cases about
      exact (fits.2 refused last).symm
  | _ => cases about

/-! ### Steps -/

/-- An event about another message changes nothing for a message. -/
theorem latest?_append_other {event : Event} {subject message : Message} (events : List Event)
    (about : event.subject? = some subject) (differs : message ≠ subject) :
    latest? message (events ++ [event]) = latest? message events := by
  apply latest?_append_of_other
  intro other member
  cases List.mem_singleton.mp member
  rw [about]
  intro same
  exact differs (Option.some.inj same).symm

theorem IsFree.append_other {events : List Event} {event : Event} {subject message : Message}
    (free : IsFree events message) (about : event.subject? = some subject)
    (differs : message ≠ subject) : IsFree (events ++ [event]) message := by
  unfold IsFree
  rw [latest?_append_other events about differs]
  exact free

theorem HasSettled.append_other {events : List Event} {event : Event}
    {subject message : Message} (settled : HasSettled events message)
    (about : event.subject? = some subject) (differs : message ≠ subject) :
    HasSettled (events ++ [event]) message := by
  unfold HasSettled
  rw [latest?_append_other events about differs]
  exact settled

end History

namespace Dispatch

open History

/-- What was last done with a message tells where it is. -/
structure Stages (dispatch : Dispatch) (events : List Event) : Prop where
  known : ∀ message event, latest? message events = some event → message ∈ delivered events
  waiting : ∀ message ∈ dispatch.waiting, IsFree events message
  busy : ∀ message ∈ dispatch.pool.busy, latest? message events = some (.started message)
  outcomes : ∀ outcome ∈ dispatch.pool.outcomes,
    latest? outcome.message events = some (.finished outcome)
  finished : ∀ message ∈ dispatch.watermark.finished, HasSettled events message
  uncommitted : ∀ message ∈ dispatch.uncommitted, HasSettled events message
  accepted : ∀ message ∈ committed events, HasSettled events message
  /-- A refused commit is still the first one to ask for. -/
  asked : ∀ message, asked? events = some (.commitFailed message) →
    dispatch.uncommitted.head? = some message

theorem stages_initial (limits : Limits) : Stages (initial limits) [] where
  known := by
    intro message event found
    cases found
  waiting := by
    intro message member
    cases member
  busy := by
    intro message member
    cases member
  outcomes := by
    intro outcome member
    cases member
  finished := by
    intro message member
    cases member
  uncommitted := by
    intro message member
    cases member
  accepted := by
    intro message member
    cases member
  asked := by
    intro message found
    cases found

/-- A step without a word on any message keeps the stages of all. -/
theorem Stages.of_latest {before after : Dispatch} {events later : List Event}
    (stages : Stages before events) (known : ∀ message ∈ delivered events,
      message ∈ delivered (events ++ later))
    (latest : ∀ message, latest? message (events ++ later) = latest? message events)
    (waiting : ∀ message ∈ after.waiting, IsFree events message)
    (busy : ∀ message ∈ after.pool.busy, message ∈ before.pool.busy)
    (outcomes : ∀ outcome ∈ after.pool.outcomes, outcome ∈ before.pool.outcomes)
    (finished : ∀ message ∈ after.watermark.finished, HasSettled events message)
    (uncommitted : ∀ message ∈ after.uncommitted, HasSettled events message)
    (committed_ : ∀ message ∈ committed later, HasSettled events message)
    (asked : ∀ message, asked? (events ++ later) = some (.commitFailed message) →
      after.uncommitted.head? = some message) : Stages after (events ++ later) where
  known := by
    intro message event found
    rw [latest] at found
    exact known message (stages.known message event found)
  waiting := by
    intro message member
    unfold IsFree
    rw [latest]
    exact waiting message member
  busy := by
    intro message member
    rw [latest]
    exact stages.busy message (busy message member)
  outcomes := by
    intro outcome member
    rw [latest]
    exact stages.outcomes outcome (outcomes outcome member)
  finished := by
    intro message member
    unfold HasSettled
    rw [latest]
    exact finished message member
  uncommitted := by
    intro message member
    unfold HasSettled
    rw [latest]
    exact uncommitted message member
  accepted := by
    intro message member
    unfold HasSettled
    rw [latest]
    rw [committed_append] at member
    rcases List.mem_append.mp member with earlier | new
    · exact stages.accepted message earlier
    · exact committed_ message new
  asked := asked

/-- A word on one message keeps the stages of all others. -/
theorem Stages.of_event {before after : Dispatch} {events : List Event} {event : Event}
    {subject : Message} (stages : Stages before events) (custody : Custody before events)
    (separate : Separate before events) (about : event.subject? = some subject)
    (notAsked : event.asked? = none) (member : subject ∈ before.unsettled)
    (waiting : ∀ message ∈ after.waiting,
      message ≠ subject ∧ message ∈ before.waiting ∨ IsFree (events ++ [event]) message)
    (busy : ∀ message ∈ after.pool.busy, message ≠ subject ∧ message ∈ before.pool.busy ∨
      latest? message (events ++ [event]) = some (.started message))
    (outcomes : ∀ outcome ∈ after.pool.outcomes,
      outcome.message ≠ subject ∧ outcome ∈ before.pool.outcomes ∨
        latest? outcome.message (events ++ [event]) = some (.finished outcome))
    (watermark : after.watermark = before.watermark)
    (uncommitted : after.uncommitted = before.uncommitted) :
    Stages after (events ++ [event]) where
  known := by
    intro message latest found
    rw [delivered_append]
    apply List.mem_append_left
    by_cases same : message = subject
    · rw [same]
      apply custody.mem_delivered
      simp [holdings, unclosed, member]
    · rw [latest?_append_other events about same] at found
      exact stages.known message latest found
  waiting := by
    intro message member
    rcases waiting message member with ⟨differs, waited⟩ | free
    · exact (stages.waiting message waited).append_other about differs
    · exact free
  busy := by
    intro message member
    rcases busy message member with ⟨differs, worked⟩ | started
    · rw [latest?_append_other events about differs]
      exact stages.busy message worked
    · exact started
  outcomes := by
    intro outcome member
    rcases outcomes outcome member with ⟨differs, reported⟩ | finished
    · rw [latest?_append_other events about differs]
      exact stages.outcomes outcome reported
    · exact finished
  finished := by
    intro message finished
    rw [watermark] at finished
    apply (stages.finished message finished).append_other about
    rintro rfl
    exact separate.finished member finished
  uncommitted := by
    intro message out
    rw [uncommitted] at out
    apply (stages.uncommitted message out).append_other about
    rintro rfl
    exact separate.uncommitted member out
  accepted := by
    intro message accepted
    have none : committed [event] = [] := committed_of_unasked (by simp [notAsked])
    rw [committed_append, none, List.append_nil] at accepted
    apply (stages.accepted message accepted).append_other about
    rintro rfl
    exact separate.committed member accepted
  asked := by
    intro message refused
    rw [asked?_append_of_none (by simp [notAsked])] at refused
    rw [uncommitted]
    exact stages.asked message refused

/-- What is left of a list without repetition, after a message was taken, has that message
no more. -/
theorem ne_of_taken {messages rest : List Message} {message other : Message}
    (once : messages.Nodup) (taken : messages.Perm (message :: rest)) (member : other ∈ rest) :
    other ≠ message := by
  rintro rfl
  exact (List.nodup_cons.mp (taken.nodup_iff.mp once)).1 member

theorem Stages.start {before after : Dispatch} {events : List Event} {message : Message}
    (stages : Stages before events) (custody : Custody before events)
    (distinct : Distinct (delivered events))
    (waiting : before.waiting.Perm (message :: after.waiting))
    (busy : after.pool.busy.Perm (message :: before.pool.busy))
    (outcomes : after.pool.outcomes = before.pool.outcomes)
    (watermark : after.watermark = before.watermark)
    (uncommitted : after.uncommitted = before.uncommitted) :
    Stages after (events ++ [.started message]) := by
  have separate := custody.separate distinct
  have about : (Event.started message).subject? = some message := rfl
  have member : message ∈ before.waiting := waiting.mem_iff.mpr List.mem_cons_self
  have unsettled_ : message ∈ before.unsettled := by simp [unsettled, member]
  refine stages.of_event custody separate about rfl unsettled_ ?_ ?_ ?_ watermark uncommitted
  · intro other waits
    apply Or.inl
    constructor
    · exact ne_of_taken separate.waiting waiting waits
    · exact waiting.mem_iff.mpr (List.mem_cons_of_mem _ waits)
  · intro other works
    cases busy.mem_iff.mp works with
    | head => exact Or.inr (latest?_append_self events about)
    | tail _ worked =>
        refine Or.inl ⟨?_, worked⟩
        rintro rfl
        exact separate.waiting_busy member worked
  · intro outcome reported
    rw [outcomes] at reported
    refine Or.inl ⟨?_, reported⟩
    rintro rfl
    exact separate.waiting_outcomes member (List.mem_map_of_mem reported)

theorem Stages.finish {before after : Dispatch} {events : List Event} {outcome : Outcome}
    (stages : Stages before events) (custody : Custody before events)
    (distinct : Distinct (delivered events))
    (waiting : after.waiting = before.waiting)
    (busy : before.pool.busy.Perm (outcome.message :: after.pool.busy))
    (outcomes : after.pool.outcomes = before.pool.outcomes ++ [outcome])
    (watermark : after.watermark = before.watermark)
    (uncommitted : after.uncommitted = before.uncommitted) :
    Stages after (events ++ [.finished outcome]) := by
  have separate := custody.separate distinct
  have about : (Event.finished outcome).subject? = some outcome.message := rfl
  have member : outcome.message ∈ before.pool.busy := busy.mem_iff.mpr List.mem_cons_self
  have unsettled_ : outcome.message ∈ before.unsettled := by simp [unsettled, member]
  refine stages.of_event custody separate about rfl unsettled_ ?_ ?_ ?_ watermark uncommitted
  · intro other waits
    rw [waiting] at waits
    refine Or.inl ⟨?_, waits⟩
    rintro rfl
    exact separate.waiting_busy waits member
  · intro other works
    apply Or.inl
    constructor
    · exact ne_of_taken separate.busy busy works
    · exact busy.mem_iff.mpr (List.mem_cons_of_mem _ works)
  · intro other reported
    rw [outcomes] at reported
    rcases List.mem_append.mp reported with earlier | new
    · refine Or.inl ⟨?_, earlier⟩
      intro same
      have there := List.mem_map_of_mem (f := Outcome.message) earlier
      rw [same] at there
      exact separate.busy_outcomes member there
    · cases List.mem_singleton.mp new
      exact Or.inr (latest?_append_self events about)

theorem Stages.crash {before after : Dispatch} {events : List Event} {message : Message}
    (stages : Stages before events) (custody : Custody before events)
    (distinct : Distinct (delivered events))
    (waiting : after.waiting = before.waiting)
    (busy : before.pool.busy.Perm (message :: after.pool.busy))
    (outcomes : after.pool.outcomes = before.pool.outcomes)
    (watermark : after.watermark = before.watermark)
    (uncommitted : after.uncommitted = before.uncommitted) :
    Stages after (events ++ [.crashed message]) := by
  have separate := custody.separate distinct
  have about : (Event.crashed message).subject? = some message := rfl
  have member : message ∈ before.pool.busy := busy.mem_iff.mpr List.mem_cons_self
  have unsettled_ : message ∈ before.unsettled := by simp [unsettled, member]
  refine stages.of_event custody separate about rfl unsettled_ ?_ ?_ ?_ watermark uncommitted
  · intro other waits
    rw [waiting] at waits
    refine Or.inl ⟨?_, waits⟩
    rintro rfl
    exact separate.waiting_busy waits member
  · intro other works
    apply Or.inl
    constructor
    · exact ne_of_taken separate.busy busy works
    · exact busy.mem_iff.mpr (List.mem_cons_of_mem _ works)
  · intro outcome reported
    rw [outcomes] at reported
    refine Or.inl ⟨?_, reported⟩
    rintro rfl
    exact separate.busy_outcomes member (List.mem_map_of_mem reported)

theorem Stages.redeliver {before after : Dispatch} {events : List Event} {outcome : Outcome}
    (stages : Stages before events) (custody : Custody before events)
    (distinct : Distinct (delivered events))
    (waiting : after.waiting.Perm (outcome.message :: before.waiting))
    (busy : after.pool.busy = before.pool.busy)
    (outcomes : before.pool.outcomes = outcome :: after.pool.outcomes)
    (watermark : after.watermark = before.watermark)
    (uncommitted : after.uncommitted = before.uncommitted) :
    Stages after (events ++ [.redelivered outcome.message]) := by
  have separate := custody.separate distinct
  have about : (Event.redelivered outcome.message).subject? = some outcome.message := rfl
  have taken : before.pool.outcomes.map Outcome.message =
      outcome.message :: after.pool.outcomes.map Outcome.message := by
    rw [outcomes]
    rfl
  have member : outcome.message ∈ before.pool.outcomes.map Outcome.message := by
    rw [taken]
    exact List.mem_cons_self
  have unsettled_ : outcome.message ∈ before.unsettled := List.mem_append_right _ member
  refine stages.of_event custody separate about rfl unsettled_ ?_ ?_ ?_ watermark uncommitted
  · intro other waits
    cases waiting.mem_iff.mp waits with
    | head => exact Or.inr (Or.inr (latest?_append_self events about))
    | tail _ waited =>
        refine Or.inl ⟨?_, waited⟩
        rintro rfl
        exact separate.waiting_outcomes waited member
  · intro other works
    rw [busy] at works
    refine Or.inl ⟨?_, works⟩
    rintro rfl
    exact separate.busy_outcomes works member
  · intro other reported
    apply Or.inl
    constructor
    · exact ne_of_taken separate.outcomes (.of_eq taken) (List.mem_map_of_mem reported)
    · rw [outcomes]
      exact List.mem_cons_of_mem _ reported

theorem Stages.settle {before after : Dispatch} {events : List Event} {outcome : Outcome}
    (stages : Stages before events) (custody : Custody before events)
    (distinct : Distinct (delivered events)) (settled : outcome.commits = true)
    (waiting : after.waiting = before.waiting)
    (busy : after.pool.busy = before.pool.busy)
    (outcomes : before.pool.outcomes = outcome :: after.pool.outcomes)
    (watermark : after.watermark = (before.watermark.complete outcome.message).2)
    (uncommitted : after.uncommitted =
      before.uncommitted ++ (before.watermark.complete outcome.message).1) :
    Stages after events := by
  have member : outcome.message ∈ before.unclosed events := by
    simp [unclosed, unsettled, outcomes]
  have reported := stages.outcomes outcome (by rw [outcomes]; exact List.mem_cons_self)
  have released := custody.released distinct member
  have hasSettled : ∀ other ∈ (before.watermark.complete outcome.message).1 ++
      (before.watermark.complete outcome.message).2.finished, HasSettled events other := by
    intro other out
    cases released.mem_iff.mp out with
    | head => exact ⟨outcome.disposition, reported, settled⟩
    | tail _ finished => exact stages.finished other finished
  have same : Stages after (events ++ []) := by
    apply stages.of_latest
    · simp
    · simp
    · rw [waiting]
      exact stages.waiting
    · rw [busy]
      exact fun _ works => works
    · rw [outcomes]
      exact fun _ later => List.mem_cons_of_mem _ later
    · intro other finished
      rw [watermark] at finished
      exact hasSettled other (List.mem_append_right _ finished)
    · intro other out
      rw [uncommitted] at out
      rcases List.mem_append.mp out with earlier | new
      · exact stages.uncommitted other earlier
      · exact hasSettled other (List.mem_append_left _ new)
    · intro other accepted
      cases accepted
    · intro other refused
      rw [List.append_nil] at refused
      have first := stages.asked other refused
      rw [uncommitted, List.head?_append, first]
      rfl
  rwa [List.append_nil] at same

theorem Stages.step {before after : Dispatch} {events later : List Event}
    (stages : Stages before events) (custody : Custody before events)
    (distinct : Distinct (delivered (events ++ later)))
    (passes : Passes before after later) : Stages after (events ++ later) := by
  have earlier : Distinct (delivered events) := by
    rw [delivered_append] at distinct
    exact distinct.left
  have grows : ∀ message ∈ delivered events, message ∈ delivered (events ++ later) := by
    intro message member
    rw [delivered_append]
    exact List.mem_append_left _ member
  cases passes with
  | quiet silent waiting busy outcomes watermark uncommitted =>
      apply stages.of_latest grows
      · exact fun message => latest?_append_of_silent silent
      · exact fun message waits => stages.waiting message (waiting.mem_iff.mp waits)
      · exact fun message works => busy.mem_iff.mp works
      · exact fun outcome reported => outcomes ▸ reported
      · exact fun message finished => stages.finished message (watermark ▸ finished)
      · exact fun message out => stages.uncommitted message (uncommitted ▸ out)
      · rw [committed_of_silent silent]
        intro message accepted
        cases accepted
      · intro message refused
        rw [asked?_append_of_silent silent] at refused
        rw [uncommitted]
        exact stages.asked message refused
  | deliver message waiting busy outcomes watermark uncommitted =>
      have latest : ∀ other, latest? other (events ++ [.polled, .received message]) =
          latest? other events := by
        intro other
        apply latest?_append_of_other
        simp [Event.subject?]
      apply stages.of_latest grows latest
      · intro other waits
        cases waiting.mem_iff.mp waits with
        | head =>
            cases found : latest? message events with
            | none => exact Or.inl found
            | some event =>
                have known := stages.known message event found
                rw [delivered_append] at distinct
                have apart := (List.nodup_append.mp distinct.nodup).2.2
                exact absurd rfl (apart message known message List.mem_cons_self)
        | tail _ waited => exact stages.waiting other waited
      · exact fun message works => busy ▸ works
      · exact fun outcome reported => outcomes ▸ reported
      · intro other finished
        rw [watermark, Watermark.finished_track] at finished
        exact stages.finished other finished
      · exact fun message out => stages.uncommitted message (uncommitted ▸ out)
      · intro other accepted
        cases accepted
      · intro other refused
        rw [asked?_append_of_none (by simp [Event.asked?])] at refused
        rw [uncommitted]
        exact stages.asked other refused
  | start message waiting busy outcomes watermark uncommitted =>
      exact stages.start custody earlier waiting busy outcomes watermark uncommitted
  | finish outcome waiting busy outcomes watermark uncommitted =>
      exact stages.finish custody earlier waiting busy outcomes watermark uncommitted
  | crash message waiting busy outcomes watermark uncommitted =>
      exact stages.crash custody earlier waiting busy outcomes watermark uncommitted
  | redeliver outcome unsettled_ waiting busy outcomes watermark uncommitted =>
      exact stages.redeliver custody earlier waiting busy outcomes watermark uncommitted
  | settle outcome settled waiting busy outcomes watermark uncommitted =>
      rw [List.append_nil]
      exact stages.settle custody earlier settled waiting busy outcomes watermark uncommitted
  | commit message waiting busy outcomes watermark uncommitted =>
      have latest : ∀ other, latest? other (events ++ [.committed message]) =
          latest? other events := by
        intro other
        apply latest?_append_of_other
        simp [Event.subject?]
      apply stages.of_latest grows latest
      · rw [waiting]
        exact stages.waiting
      · exact fun message works => busy ▸ works
      · exact fun outcome reported => outcomes ▸ reported
      · exact fun message finished => stages.finished message (watermark ▸ finished)
      · intro other out
        apply stages.uncommitted
        rw [uncommitted]
        exact List.mem_cons_of_mem _ out
      · intro other accepted
        cases List.mem_singleton.mp accepted
        apply stages.uncommitted
        rw [uncommitted]
        exact List.mem_cons_self
      · intro other refused
        rw [asked?_append_self events rfl] at refused
        cases refused
  | refuse message waiting busy outcomes watermark uncommitted first =>
      have latest : ∀ other, latest? other (events ++ [.commitFailed message]) =
          latest? other events := by
        intro other
        apply latest?_append_of_other
        simp [Event.subject?]
      apply stages.of_latest grows latest
      · rw [waiting]
        exact stages.waiting
      · exact fun message works => busy ▸ works
      · exact fun outcome reported => outcomes ▸ reported
      · exact fun message finished => stages.finished message (watermark ▸ finished)
      · exact fun message out => stages.uncommitted message (uncommitted ▸ out)
      · intro other accepted
        cases accepted
      · intro other refused
        rw [asked?_append_self events rfl] at refused
        cases refused
        rw [uncommitted]
        exact first

/-- What a step makes happen fits the history. -/
theorem Stages.fits {before after : Dispatch} {events later : List Event}
    (stages : Stages before events) (lawful : Lawful events)
    (passes : Passes before after later) : Lawful (events ++ later) := by
  have mayAsk : ∀ message, before.uncommitted.head? = some message → MayAsk events message := by
    intro message first
    constructor
    · exact stages.uncommitted message (List.mem_of_mem_head? first)
    · intro refused found
      exact Option.some.inj ((stages.asked refused found).symm.trans first)
  cases passes with
  | quiet silent => exact lawful.append_silent silent
  | deliver message =>
      have polled : Lawful (events ++ [.polled]) := lawful.append_singleton trivial
      have received : Lawful (events ++ [.polled] ++ [.received message]) :=
        polled.append_singleton trivial
      rwa [List.append_assoc] at received
  | start message waiting =>
      exact lawful.append_singleton
        (stages.waiting message (waiting.mem_iff.mpr List.mem_cons_self))
  | finish outcome waiting busy =>
      exact lawful.append_singleton
        (stages.busy outcome.message (busy.mem_iff.mpr List.mem_cons_self))
  | crash message waiting busy =>
      exact lawful.append_singleton
        (stages.busy message (busy.mem_iff.mpr List.mem_cons_self))
  | redeliver outcome unsettled_ waiting busy outcomes =>
      have reported := stages.outcomes outcome (by rw [outcomes]; exact List.mem_cons_self)
      exact lawful.append_singleton ⟨outcome.disposition, reported, unsettled_⟩
  | settle =>
      rw [List.append_nil]
      exact lawful
  | commit message waiting busy outcomes watermark uncommitted =>
      exact lawful.append_singleton (mayAsk message (by rw [uncommitted]; rfl))
  | refuse message waiting busy outcomes watermark uncommitted first =>
      exact lawful.append_singleton (mayAsk message first)

theorem Reached.stages {limits : Limits} {dispatch : Dispatch} {events : List Event}
    (reached : Reached limits dispatch events) (distinct : Distinct (delivered events)) :
    Stages dispatch events := by
  induction reached with
  | start => exact stages_initial limits
  | step reached possible ih =>
      have earlier := distinct
      rw [delivered_append] at earlier
      exact (ih earlier.left).step (reached.custody earlier.left) distinct
        (step_passes reached.sound possible)

/-- In every run every event fits what was before it. -/
theorem Reached.lawful {limits : Limits} {dispatch : Dispatch} {events : List Event}
    (reached : Reached limits dispatch events) (distinct : Distinct (delivered events)) :
    Lawful events := by
  induction reached with
  | start => exact lawful_nil
  | step reached possible ih =>
      rw [delivered_append] at distinct
      exact (reached.stages distinct.left).fits (ih distinct.left)
        (step_passes reached.sound possible)

end Dispatch

end Scribe.Delivery
