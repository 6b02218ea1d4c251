import Mathlib.Logic.Relation
import Scribe.Proofs.Service.Honesty

/-!
# No job is lost

Whatever fails and however often the process crashes, a message whose commit was accepted
has left its evidence.  As a copy stands behind its original in the journal, the copies of
a job lead from any of its records to one that is still to be delivered or has come to its
end.
-/

namespace Scribe.Service

open Scribe.Broker
open Scribe.Delivery
open Scribe.Dialogue
open Scribe.Work

variable {setup : Setup}

/-- The broker delivers the record at an index again, as no commit of it was accepted. -/
def IsOpen (setup : Setup) (world : World) (index : Nat) : Prop :=
  ∀ message ∈ world.commits, message.id ≠ setup.idOf index

/-- The message of the record at an index has come to its end. -/
def HasEnded (setup : Setup) (world : World) (index : Nat) : Prop :=
  ∃ message record, Brings setup world.journal message index record ∧
    Ended setup world.journal message

/-- The record at a later index is a copy of the message of an earlier one. -/
def IsCopy (setup : Setup) (world : World) (index copy : Nat) : Prop :=
  index < copy ∧ ∃ message record, Brings setup world.journal message index record ∧
    CopiedAt setup world.journal message copy

/-- A job record is open, or has come to its end, or has a copy that is a job record. -/
theorem Honest.copy_of_record {world : World} (honest : Honest setup world) (index : Nat) :
    IsOpen setup world index ∨ HasEnded setup world index ∨
      ∃ copy record, IsCopy setup world index copy ∧ world.journal[copy]? = some record ∧
        record.topic = setup.limits.topic := by
  by_cases isOpen : IsOpen setup world index
  · exact Or.inl isOpen
  · unfold IsOpen at isOpen
    push Not at isOpen
    obtain ⟨message, committed, isIndex⟩ := isOpen
    obtain ⟨evident, place, record, brings⟩ := honest.accepted message committed
    have here : place = index := setup.idOf_injective _ _ (brings.id.symm.trans isIndex)
    subst here
    cases evident with
    | ended ended => exact Or.inr (Or.inl ⟨message, record, brings, ended⟩)
    | retried origin copy isOrigin later copied =>
        have same : origin = place :=
          setup.idOf_injective _ _ (isOrigin.symm.trans isIndex)
        subst same
        obtain ⟨key, found⟩ := copied
        exact Or.inr (Or.inr ⟨copy, _, ⟨later, message, record, brings, key, found⟩, found,
          setup.same_topic⟩)

/-- From each job record the copies lead to one that is open or has come to its end. -/
theorem Honest.chain {world : World} (honest : Honest setup world) (index : Nat)
    (record : Record) (found : world.journal[index]? = some record)
    (consumed : record.topic = setup.limits.topic) :
    ∃ last, Relation.ReflTransGen (IsCopy setup world) index last ∧
      (IsOpen setup world last ∨ HasEnded setup world last) := by
  -- The induction is on how many records stand behind the one at the index.
  induction behind : world.journal.length - index using Nat.strongRecOn
    generalizing index record with
  | ind count ih =>
      have inside : index < world.journal.length :=
        (List.getElem?_eq_some_iff.mp found).1
      rcases honest.copy_of_record index with
        isOpen | hasEnded | ⟨copy, other, isCopy, at_, topic⟩
      · exact ⟨index, .refl, Or.inl isOpen⟩
      · exact ⟨index, .refl, Or.inr hasEnded⟩
      · have closer : world.journal.length - copy < count := by
          have later := isCopy.1
          omega
        obtain ⟨last, chain, atEnd⟩ := ih _ closer copy other at_ topic rfl
        exact ⟨last, .head isCopy chain, atEnd⟩

/-- In every run, over any crashes, each message whose commit was accepted came from the
journal and has left its evidence there; and from each job record the copies lead to one
that is still open or has come to its end. -/
theorem no_job_lost (setup : Setup) (world : World) (reachable : Reachable setup world) :
    (∀ message ∈ world.commits, Evident setup world.journal message ∧
      ∃ index record, Brings setup world.journal message index record) ∧
    ∀ index record, world.journal[index]? = some record →
      record.topic = setup.limits.topic →
      ∃ last, Relation.ReflTransGen (IsCopy setup world) index last ∧
        (IsOpen setup world last ∨ HasEnded setup world last) :=
  ⟨reachable.honest.accepted, reachable.honest.chain⟩

/-! ## A service with one worker -/

/-- A service with one worker, whose broker calls its records by their places. -/
def small : Setup where
  processor := { directory := "/tmp/stt", selector := ⟨⟨.whisper, "small"⟩, none, {}⟩ }
  limits := {}
  lifetime := ⟨3600⟩
  capacity := 10
  idOf index := String.ofList (List.replicate index '0')
  same_topic := rfl
  idOf_injective := by
    intro one other same
    have sameLength := congrArg String.length same
    simpa using sameLength

/-- The first message of a process, when it brings the record at an index. -/
def firstMessage (record : Record) (index : Nat) : Message :=
  { topic := "stt.jobs"
    partition := 0
    offset := 0
    key := record.key
    payload := record.payload
    headers := record.headers
    id := small.idOf index }

/-- What the handling of such a message comes to, and what it leaves in the journal and in the
window. -/
def handled (fixed : (wanted : Request) → wanted.Answer) (journal : List Record)
    (record : Record) (index : Nat) : Disposition × List Record × Dedup.Window :=
  (small.processor.process (firstMessage record index)).run (reply fixed)
    (journal, { lifetime := small.lifetime, capacity := small.capacity })

/-- A process that has just started can handle a record, and crash before or after its commit. -/
theorem Reachable.served {journal : List Record} {commits : List Message}
    (reachable : Reachable small (.fresh small journal commits)) (index : Nat)
    {record : Record} (found : journal[index]? = some record)
    (consumed : record.topic = "stt.jobs") (fixed : (wanted : Request) → wanted.Answer) :
    let come := handled fixed journal record index
    Reachable small (.fresh small come.2.1 commits) ∧
      (come.1 ≠ .unresolved →
        Reachable small (.fresh small come.2.1 (commits ++ [firstMessage record index]))) := by
  have begun := reachable.plainly (.subscribed (.ok ())) rfl rfl
  have checked := begun.plainly .proceed rfl rfl
  have drained := checked.plainly .proceed rfl rfl
  have measuring := drained.plainly .proceed rfl rfl
  have regulating := measuring.plainly .proceed rfl rfl
  have choosing := regulating.plainly .proceed rfl rfl
  have offered := choosing.step (@Step.deliver small _ _ _ index record (firstMessage record index)
    ⟨found, consumed, consumed.symm, rfl, rfl, rfl, rfl⟩ (by intro earlier member; cases member)
    rfl)
  have queued := offered.plainly .proceed rfl rfl
  have looked := queued.plainly (.worker 0 .look) rfl rfl
  have taken := looked.step (@Step.take small _ _ 0 (firstMessage record index) rfl)
  generalize came : handled fixed journal record index = come
  obtain ⟨disposition, left, window⟩ := come
  have carried := @Reachable.carried small _ taken 0 (firstMessage record index) rfl fixed
    (small.processor.process (firstMessage record index)) rfl _ _ _ came
  refine ⟨carried.step .crash, ?_⟩
  intro settled
  have finished := carried.step (@Step.finish small _ _ _ 0 disposition rfl rfl)
  have draining := finished.plainly .proceed rfl rfl
  -- Only a settled message is released, and its commit asked for.
  cases disposition with
  | unresolved => exact absurd rfl settled
  | _ =>
      have released := draining.plainly .proceed rfl rfl
      have committing := released.plainly .proceed rfl rfl
      have committed := committing.step (@Step.commit small _ _ _ rfl)
      exact committed.step .crash

/-- A job is completed, but the process crashes before the commit.  It comes again, cannot be
fetched and is retried; its copy cannot be converted and is given up.  Both are committed. -/
theorem no_job_lost_crashed :
    ∃ world, Reachable small world ∧
      world.journal.map Record.topic =
        ["stt.jobs", "stt.results", "stt.jobs", "stt.jobs.dlq", "stt.results"] ∧
      world.commits.map Message.id = ["", "00"] ∧
      (∀ message ∈ world.commits, Evident small world.journal message ∧
        ∃ index record, Brings small world.journal message index record) ∧
      ∀ index record, world.journal[index]? = some record →
        record.topic = small.limits.topic →
        ∃ last, Relation.ReflTransGen (IsCopy small world) index last ∧
          (IsOpen small world last ∨ HasEnded small world last) := by
  let job : Record :=
    { topic := "stt.jobs"
      key := none
      payload := ("\x7b\"jobId\":\"a\",\"taskId\":\"b\",\"audioUrl\":\"http://[::1]/\"," ++
        "\"createdAt\":\"2026-01-01T00:00:00Z\"\x7d").toUTF8
      headers := [] }
  let wave : Recording := ⟨"/tmp/stt/a.wav", 1.0⟩
  let willing := supplying (.ok ()) (.ok wave)
  let unreachable := supplying (.error (.of .downloadFailed "")) (.ok wave)
  let unreadable := supplying (.ok ()) (.error (.of .unsupportedFormat ""))
  let completed := handled willing [job] job 0
  let retried := handled unreachable completed.2.1 job 0
  let copy := (retried.2.1[2]?).getD job
  have submitted : Reachable small (.fresh small [job] []) :=
    Reachable.start.step (@Step.submit small _ job rfl)
  have crashed := (submitted.served 0 rfl rfl willing).1
  have held : completed.2.1[0]? = some job := by decide +kernel
  have once := (crashed.served 0 held rfl unreachable).2 (by decide +kernel)
  have copied : retried.2.1[2]? = some copy := by decide +kernel
  have twice := (once.served 2 copied (by decide +kernel) unreadable).2 (by decide +kernel)
  exact ⟨_, twice, by decide +kernel, rfl, no_job_lost small _ twice⟩

end Scribe.Service
