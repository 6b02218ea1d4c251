import Scribe.Proofs.Delivery.Stages
import Scribe.Proofs.Service.Evidence

/-!
# What holds in every world

The process never knows more than the journal bears out: the window holds completed jobs
only, every errand was told the truth, and every outcome that settles its message has its
evidence.  Each step keeps this, and a crash can only forget.
-/

namespace Scribe.Service

open Scribe.Broker
open Scribe.Delivery
open Scribe.Delivery.History
open Scribe.Dialogue
open Scribe.Work

variable {setup : Setup}

/-- A worker with a message is on the way through its handling, and was told the truth. -/
def Works (setup : Setup) (journal : List Record) (message : Message)
    (errand : Errand Disposition) : Prop :=
  ∃ past origin record, Leads (setup.processor.process message) past errand ∧
    Brings setup journal message origin record ∧ Borne setup journal origin past

/-- The journal bears out what the process goes by. -/
structure Honest (setup : Setup) (world : World) : Prop where
  reached : Dispatch.Reached setup.limits world.dispatch world.history
  ascending : Ascending (delivered world.history)
  origin : ∀ message ∈ delivered world.history,
    ∃ index record, Brings setup world.journal message index record
  truthful : Truthful setup world.journal world.window
  working : ∀ (index : Nat) (message : Message),
    world.dispatch.pool.workers[index]? = some (.busy message) →
      Works setup world.journal message (world.errands index)
  finished : ∀ outcome, .finished outcome ∈ world.history →
    outcome.disposition.settles = true → Evident setup world.journal outcome.message
  accepted : ∀ message ∈ world.commits, Evident setup world.journal message ∧
    ∃ index record, Brings setup world.journal message index record

/-! ## Growth -/

theorem Brings.append {journal : List Record} {message : Message} {index : Nat}
    {record : Record} (brings : Brings setup journal message index record)
    (new : List Record) : Brings setup (journal ++ new) message index record :=
  { brings with found := getElem?_append_of_some brings.found new }

theorem Brings.inside {journal : List Record} {message : Message} {index : Nat}
    {record : Record} (brings : Brings setup journal message index record) :
    index < journal.length :=
  (List.getElem?_eq_some_iff.mp brings.found).1

theorem Works.append {journal : List Record} {message : Message} {errand : Errand Disposition}
    (works : Works setup journal message errand) (new : List Record) :
    Works setup (journal ++ new) message errand := by
  obtain ⟨past, origin, record, leads, brings, borne⟩ := works
  exact ⟨past, origin, record, leads, brings.append new, borne.append new⟩

/-- Whatever the broker takes, what was true stays true. -/
theorem Honest.append {world : World} (honest : Honest setup world) (new : List Record) :
    Honest setup { world with journal := world.journal ++ new } where
  reached := honest.reached
  ascending := honest.ascending
  origin := by
    intro message member
    obtain ⟨index, record, brings⟩ := honest.origin message member
    exact ⟨index, record, brings.append new⟩
  truthful := honest.truthful.append new
  working := by
    intro index message busy
    exact (honest.working index message busy).append new
  finished := by
    intro outcome member settles
    exact (honest.finished outcome member settles).append new
  accepted := by
    intro message member
    obtain ⟨evident, index, record, brings⟩ := honest.accepted message member
    exact ⟨evident.append new, index, record, brings.append new⟩

/-! ## Steps of the delivery loop -/

/-- A step of the loop that hands out no message is honest if what it delivers and reports
is. -/
theorem Honest.moved {world : World} {next : Dispatch} {events : List Event} {move : Move}
    (honest : Honest setup world)
    (possible : world.dispatch.step move = some (next, events))
    (ascending : Ascending (delivered (world.history ++ events)))
    (origin : ∀ message ∈ delivered events,
      ∃ index record, Brings setup world.journal message index record)
    (untaken : ∀ worker, move ≠ .worker worker .take)
    (finished : ∀ outcome, .finished outcome ∈ events →
      outcome.disposition.settles = true → Evident setup world.journal outcome.message) :
    Honest setup (world.moved next events) where
  reached := honest.reached.step possible
  ascending := ascending
  origin := by
    intro message member
    simp only [World.moved, delivered_append] at member
    rcases List.mem_append.mp member with earlier | new
    · exact honest.origin message earlier
    · exact origin message new
  truthful := honest.truthful
  working := by
    intro index message busy
    exact honest.working index message (Dispatch.step_busy possible untaken busy)
  finished := by
    intro outcome member settles
    rcases List.mem_append.mp member with earlier | new
    · exact honest.finished outcome earlier settles
    · exact finished outcome new settles
  accepted := honest.accepted

/-- Where nothing is delivered, the deliveries rise as they did. -/
theorem ascending_of_nothing {history events : List Event}
    (ascending : Ascending (delivered history)) (nothing : delivered events = []) :
    Ascending (delivered (history ++ events)) := by
  rw [delivered_append, nothing, List.append_nil]
  exact ascending

theorem Honest.deliver {world : World} {next : Dispatch} {events : List Event} {index : Nat}
    {record : Record} {message : Message} (honest : Honest setup world)
    (brings : Brings setup world.journal message index record)
    (above : ∀ earlier ∈ delivered world.history, Place.of earlier = Place.of message →
      earlier.offset < message.offset)
    (possible : world.dispatch.step (.polled (.ok (some message))) = some (next, events)) :
    Honest setup (world.moved next events) := by
  have same := Dispatch.step_polled_events possible
  have brought : delivered events = [message] := by
    rw [same]
    rfl
  apply honest.moved possible
  · rw [delivered_append, brought]
    apply List.pairwise_append.mpr
    refine ⟨honest.ascending, List.pairwise_singleton _ _, ?_⟩
    intro earlier member later isLater
    cases List.mem_singleton.mp isLater
    exact above earlier member
  · intro other member
    rw [brought] at member
    cases List.mem_singleton.mp member
    exact ⟨index, record, brings⟩
  · simp
  · intro outcome member
    rw [same] at member
    simp at member

theorem Honest.take {world : World} {next : Dispatch} {index : Nat} {message : Message}
    (honest : Honest setup world)
    (possible : world.dispatch.step (.worker index .take) =
      some (next, [.started message])) :
    Honest setup ((world.moved next [.started message]).assign index
      (setup.processor.process message)) := by
  obtain ⟨⟨pool, poolEvents⟩, poolStep, equal⟩ := Option.map_eq_some_iff.mp possible
  cases equal
  obtain ⟨_, first, rest, intake, _, same⟩ := Pool.step_take_iff.mp poolStep
  cases same
  have given : message ∈ delivered world.history := by
    apply (honest.reached.custody honest.ascending.distinct).mem_delivered
    simp [Dispatch.holdings, Dispatch.unclosed, Dispatch.unsettled, Dispatch.waiting, intake]
  obtain ⟨origin, record, brings⟩ := honest.origin message given
  exact {
    reached := honest.reached.step possible
    ascending := ascending_of_nothing honest.ascending rfl
    origin := by
      intro other member
      apply honest.origin other
      simpa [World.assign, World.moved, delivered, Event.delivered?] using member
    truthful := honest.truthful
    working := by
      intro worker other busy
      rcases Pool.step_take poolStep busy with ⟨rfl, rfl⟩ | ⟨differs, before⟩
      · simp only [World.assign, if_pos]
        exact ⟨[], origin, record, .start _, brings, Borne.nil _ _⟩
      · simp only [World.assign, if_neg differs]
        exact honest.working worker other before
    finished := by
      intro outcome member
      apply honest.finished outcome
      simpa [World.assign, World.moved] using member
    accepted := honest.accepted }

theorem Honest.finish {world : World} {next : Dispatch} {events : List Event} {index : Nat}
    {disposition : Disposition} (honest : Honest setup world)
    (errand : world.errands index = .done disposition)
    (possible : world.dispatch.step (.worker index (.finish disposition)) =
      some (next, events)) : Honest setup (world.moved next events) := by
  obtain ⟨⟨pool, poolEvents⟩, poolStep, equal⟩ := Option.map_eq_some_iff.mp possible
  cases equal
  obtain ⟨nothing, _, _⟩ := Pool.step_events poolStep
  obtain ⟨message, busy, reports⟩ := Pool.step_finish poolStep
  apply honest.moved possible (ascending_of_nothing honest.ascending nothing)
  · intro other member
    rw [nothing] at member
    cases member
  · simp
  · intro outcome member settles
    rcases reports with rfl | rfl
    · cases List.mem_singleton.mp member
      obtain ⟨past, origin, record, leads, brings, borne⟩ := honest.working index message busy
      rw [errand] at leads
      exact evident_of_course leads.course_of_done settles borne brings.id
    · cases member

/-- A commit is asked for a message whose last outcome settled it, and that has evidence. -/
theorem Honest.commit {world : World} {next : Dispatch} {events : List Event}
    (honest : Honest setup world)
    (possible : world.dispatch.step (.commit (.ok ())) = some (next, events)) :
    Honest setup
      { world.moved next events with commits := world.commits ++ committed events } := by
  obtain ⟨message, rfl⟩ := Dispatch.step_commit_events possible
  have ascending : Ascending (delivered (world.history ++ [.committed message])) :=
    ascending_of_nothing honest.ascending rfl
  have lawful := (honest.reached.step possible).lawful ascending.distinct
  have mayAsk : MayAsk world.history message := lawful _ _ [] rfl
  obtain ⟨disposition, latest, settles⟩ := mayAsk.1
  have reported : .finished ⟨message, disposition⟩ ∈ world.history := by
    obtain ⟨early, late, split_, _, _⟩ := latest?_split latest
    rw [split_]
    exact List.mem_append_right _ List.mem_cons_self
  have evident := honest.finished ⟨message, disposition⟩ reported settles
  have stages := honest.reached.stages honest.ascending.distinct
  have moved : Honest setup (world.moved next [.committed message]) := by
    apply honest.moved possible ascending
    · intro other member
      cases member
    · simp
    · intro outcome member
      simp at member
  exact { moved with
    accepted := by
      intro other member
      rcases List.mem_append.mp member with earlier | new
      · exact honest.accepted other earlier
      · cases List.mem_singleton.mp new
        exact ⟨evident, honest.origin message (stages.known message _ latest)⟩ }

theorem Honest.plain {world : World} {next : Dispatch} {events : List Event} {move : Move}
    (honest : Honest setup world) (plain : Dispatch.isPlain move = true)
    (possible : world.dispatch.step move = some (next, events)) :
    Honest setup (world.moved next events) := by
  obtain ⟨nothing, _, unfinished⟩ := Dispatch.step_plain plain possible
  apply honest.moved possible (ascending_of_nothing honest.ascending nothing)
  · intro other member
    rw [nothing] at member
    cases member
  · rintro _ rfl
    cases plain
  · intro outcome member
    exact absurd member (unfinished outcome)

/-! ## Steps of the errands -/

theorem Answers.grows {journal grown : List Record} {window changed : Dedup.Window}
    {wanted : Request} {answer : wanted.Answer}
    (answers : Answers journal window wanted answer grown changed) :
    ∃ new, grown = journal ++ new := by
  cases answers with
  | taken record => exact ⟨[record], rfl⟩
  | doubtful record error => exact ⟨[record], rfl⟩
  | _ => exact ⟨[], (List.append_nil _).symm⟩

theorem Honest.work {world : World} {index : Nat} {message : Message} {wanted : Request}
    {rest : wanted.Answer → Errand Disposition} {answer : wanted.Answer}
    {journal : List Record} {window : Dedup.Window} (honest : Honest setup world)
    (busy : world.dispatch.pool.workers[index]? = some (.busy message))
    (errand : world.errands index = .ask wanted rest)
    (answers : Answers world.journal world.window wanted answer journal window) :
    Honest setup ({ world with journal, window }.assign index (rest answer)) := by
  obtain ⟨past, origin, record, leads, brings, borne⟩ := honest.working index message busy
  rw [errand] at leads
  have told := borne.answer honest.truthful brings.inside answers
  have truthful : Truthful setup journal window := by
    cases answers with
    | remember jobId now =>
        exact honest.truthful.insert (completed_of_remember leads borne) now
    | taken record => exact honest.truthful.append [record]
    | doubtful record error => exact honest.truthful.append [record]
    | _ => exact honest.truthful
  obtain ⟨new, rfl⟩ := answers.grows
  have grown := honest.append new
  exact {
    reached := grown.reached
    ascending := grown.ascending
    origin := grown.origin
    truthful := truthful
    working := by
      intro worker other works
      by_cases same : worker = index
      · subst same
        have here : other = message := by
          have both := works.symm.trans busy
          cases both
          rfl
        subst here
        simp only [World.assign, if_pos]
        exact ⟨_, origin, record, leads.answer answer, brings.append new, told⟩
      · simp only [World.assign, if_neg same]
        exact grown.working worker other works
    finished := grown.finished
    accepted := grown.accepted }

/-! ## All worlds -/

/-- A process that has just started knows nothing that the journal does not bear out. -/
theorem honest_fresh {journal : List Record} {commits : List Message}
    (accepted : ∀ message ∈ commits, Evident setup journal message ∧
      ∃ index record, Brings setup journal message index record) :
    Honest setup (.fresh setup journal commits) where
  reached := .start
  ascending := List.Pairwise.nil
  origin := by
    intro message member
    cases member
  truthful := by
    intro entry member
    cases member
  working := by
    intro index message busy
    simp [World.fresh, Dispatch.initial] at busy
  finished := by
    intro outcome member
    cases member
  accepted := accepted

theorem Honest.step {world next : World} (honest : Honest setup world)
    (step : Step setup world next) : Honest setup next := by
  cases step with
  | submit topic => exact honest.append _
  | deliver brings above possible => exact honest.deliver brings above possible
  | take possible => exact honest.take possible
  | work busy errand answers => exact honest.work busy errand answers
  | finish errand possible => exact honest.finish errand possible
  | commit possible => exact honest.commit possible
  | other plain possible => exact honest.plain plain possible
  | crash => exact honest_fresh honest.accepted

theorem Reachable.honest {world : World} (reachable : Reachable setup world) :
    Honest setup world := by
  induction reachable with
  | start =>
      apply honest_fresh
      intro message member
      cases member
  | step _ step ih => exact ih.step step

end Scribe.Service
