import Scribe.Files
import Scribe.Http.Download
import Scribe.Proofs.Dialogue.Course

/-!
# How a download goes

The server answers each request in its own way, and the disk may refuse to begin the file, to
take a chunk of it, or to finish it.  Which of all this happens first says how a try ends: the
download asks again as long as the end of a try may pass and tries are left, and it comes to what
the last try came to.  Every try begins the file anew and stops before the chunk that would bring
it above the limit, so that a file of which the download is content holds the body of the last
reply and nothing else.
-/

namespace Scribe.Download

open Scribe.Dialogue
open Scribe.Http

/-! ## Servers and disks -/

/-- How the server and the disk behave for one request. -/
structure Behaviour where
  reply : Except Fault Reply
  /-- Why the file cannot be begun, if it cannot. -/
  uncreated : Option FileError := none
  /-- Why the chunk of a number cannot be written, if it cannot. -/
  unwritten : Nat → Option FileError := fun _ => none
  /-- Why what was written does not get to the disk, if it does not. -/
  unflushed : Option FileError := none
  /-- How many bytes stand in the file after an error. -/
  kept : Nat := 0

/-- The first error among a count of chunks, from the one of a number on. -/
def Behaviour.unwrittenFrom (behaviour : Behaviour) (number count : Nat) : Option FileError :=
  (List.range' number count).findSome? behaviour.unwritten

/-- What is to be seen from the outside while a download goes on. -/
structure Scene where
  requests : Nat := 0
  waits : List Time.Span := []
  /-- The bytes at the destination, if there is a file. -/
  content : Option ByteArray := none
  /-- How many chunks were handed to the disk since the last request. -/
  chunks : Nat := 0
  /-- How many bytes were handed to the disk after each request. -/
  written : Nat → Nat := fun _ => 0

namespace Scene

/-- A request is made. -/
def ask (scene : Scene) : Scene :=
  { scene with
    requests := scene.requests + 1
    chunks := 0
    written := fun n => if n = scene.requests + 1 then 0 else scene.written n }

/-- The disk is handed a chunk, and there are some bytes in the file afterwards. -/
def write (scene : Scene) (chunk content : ByteArray) : Scene :=
  { scene with
    content := some content
    chunks := scene.chunks + 1
    written := fun n =>
      if n = scene.requests then scene.written n + chunk.size else scene.written n }

/-- The bytes in the file. -/
def bytes (scene : Scene) : ByteArray := scene.content.getD ByteArray.empty

end Scene

/-- Answer a download as a script says, which has one behaviour for each request.  There is a
place for the file. -/
def answer (script : Nat → Behaviour) (question : Question) (scene : Scene) :
    question.Answer × Scene :=
  let behaviour := script (scene.requests - 1)
  match question with
  | .makeDirectory => (.ok (), scene)
  | .get => ((script scene.requests).reply, scene.ask)
  | .create =>
      match behaviour.uncreated with
      | some error => (.error error.failure, scene)
      | none => (.ok (), { scene with content := some ByteArray.empty })
  | .write chunk =>
      match behaviour.unwritten scene.chunks with
      | some error =>
          (.error error.failure,
            scene.write chunk ((scene.bytes ++ chunk).extract 0 behaviour.kept))
      | none => (.ok (), scene.write chunk (scene.bytes ++ chunk))
  | .flush =>
      match behaviour.unflushed with
      | some error =>
          (.error error.failure,
            { scene with content := some (scene.bytes.extract 0 behaviour.kept) })
      | none => (.ok (), scene)
  | .sleep span => ((), { scene with waits := scene.waits ++ [span] })

/-! ## How a try ends -/

/-- How a try ends. -/
inductive Ending
  /-- The exchange with the server breaks off, before the body or in it. -/
  | fault (reason : Fault)
  /-- The server refuses, or fails. -/
  | refused (status : Nat)
  | oversize
  /-- The disk does not take the file. -/
  | disk (error : FileError)
  | empty
  | whole (size : Nat) (contentType : Option String)

namespace Ending

/-- Whether another try may help. -/
def passes : Ending → Bool
  | .fault _ => true
  | .refused status => decide (status = 429) || (decide (500 ≤ status) && decide (status < 600))
  | .oversize => false
  | .disk _ => true
  | .empty => false
  | .whole _ _ => false

/-- What a try comes to. -/
def outcome (limit : Nat) : Ending → Except Failure Downloaded
  | .fault reason => .error (faultFailure reason)
  | .refused status =>
      .error ⟨.downloadFailed, "HTTP " ++ Text.decimal status, (Ending.refused status).passes⟩
  | .oversize => .error (tooLarge limit)
  | .disk error => .error error.failure
  | .empty => .error noContent
  | .whole size contentType => .ok ⟨size, contentType⟩

/-- The end of a try passes exactly if it is a failure that is worth another try. -/
theorem passes_iff (limit : Nat) (ending : Ending) :
    ending.passes = true ↔
      ∃ failure, ending.outcome limit = .error failure ∧ failure.retryable = true := by
  cases ending with
  | fault reason =>
      cases late : reason.isLate <;>
        simp [passes, outcome, faultFailure, late, Failure.of, FailureCode.retryableByDefault]
  | refused status => simp [outcome]
  | oversize => simp [passes, outcome, tooLarge, Failure.of, FailureCode.retryableByDefault]
  | disk error => exact ⟨fun _ => ⟨error.failure, rfl, rfl⟩, fun _ => rfl⟩
  | empty => simp [passes, outcome, noContent, Failure.withRetryable]
  | whole size contentType => simp [passes, outcome]

end Ending

/-- The number of bytes in chunks. -/
def total : List ByteArray → Nat
  | [] => 0
  | chunk :: rest => chunk.size + total rest

/-- How many chunks fit into a number of bytes, one after another. -/
def fitting : (room : Nat) → List ByteArray → Nat
  | _, [] => 0
  | room, chunk :: rest =>
      if chunk.size ≤ room then fitting (room - chunk.size) rest + 1 else 0

/-- How a try ends: as the first of all that can happen to it says. -/
def Behaviour.ending (limit : Nat) (behaviour : Behaviour) : Ending :=
  match behaviour.reply with
  | .error fault => .fault fault
  | .ok reply =>
      if reply.isClientError || reply.isServerError then .refused reply.status
      else if reply.declared.any (limit < ·) then .oversize
      else if let some error := behaviour.uncreated then .disk error
      else if let some error := behaviour.unwrittenFrom 0 (fitting limit reply.chunks) then
        .disk error
      else if limit < total reply.chunks then .oversize
      else if let some fault := reply.breaksOff then .fault fault
      else if let some error := behaviour.unflushed then .disk error
      else if total reply.chunks = 0 then .empty
      else .whole (total reply.chunks) reply.contentType?

theorem body_of_whole {reply : Reply} (whole : reply.breaksOff = none) :
    reply.body = .ok (reply.chunks.foldl (· ++ ·) ByteArray.empty) := by
  simp [Reply.body, whole]

theorem size_foldl (start : ByteArray) (chunks : List ByteArray) :
    (chunks.foldl (· ++ ·) start).size = start.size + total chunks := by
  induction chunks generalizing start with
  | nil => rfl
  | cons chunk rest ih =>
      rw [List.foldl_cons, ih, ByteArray.size_append, total]
      omega

/-! ## One try -/

/-- What the disk sees of one request: nothing else is changed, and no more bytes are handed to it
than the limit. -/
structure Within (limit : Nat) (scene after : Scene) : Prop where
  requests : after.requests = scene.requests
  waits : after.waits = scene.waits
  others : ∀ n, n ≠ scene.requests → after.written n = scene.written n
  bounded : after.written scene.requests ≤ limit

theorem Within.trans {limit : Nat} {scene middle after : Scene} (first : Within limit scene middle)
    (second : Within limit middle after) : Within limit scene after where
  requests := second.requests.trans first.requests
  waits := second.waits.trans first.waits
  others n other := by
    rw [second.others n (first.requests ▸ other), first.others n other]
  bounded := first.requests ▸ second.bounded

section

variable {script : Nat → Behaviour} {limit : Nat}

theorem within_of_same {scene after : Scene} (requests : after.requests = scene.requests)
    (waits : after.waits = scene.waits) (written : after.written = scene.written)
    (bounded : scene.written scene.requests ≤ limit) : Within limit scene after :=
  ⟨requests, waits, fun n _ => congrFun written n, (congrFun written _) ▸ bounded⟩

theorem within_write {scene : Scene} {chunk content : ByteArray}
    (fits : scene.written scene.requests + chunk.size ≤ limit) :
    Within limit scene (scene.write chunk content) := by
  refine ⟨rfl, rfl, fun n other => if_neg other, ?_⟩
  have own : (scene.write chunk content).written scene.requests =
      scene.written scene.requests + chunk.size := if_pos rfl
  rw [own]
  exact fits

/-- A question is answered, and the dialogue goes on from there. -/
theorem run_ask_bind {α : Type} (question : Question) (next : question.Answer → Talk α)
    (scene : Scene) :
    (ask question >>= next).run (answer script) scene =
      (next (answer script question scene).1).run (answer script)
        (answer script question scene).2 := rfl

theorem run_pure {α : Type} (value : α) (scene : Scene) :
    (pure value : Talk α).run (answer script) scene = (value, scene) := rfl

/-- How the writing of chunks ends: where the disk does not take one of those that fit, where
one does not fit, or behind the last one. -/
inductive Written (limit : Nat) (behaviour : Behaviour) (number size : Nat)
    (chunks : List ByteArray) : Except Failure Nat → Prop
  | failed {error : FileError}
      (found : behaviour.unwrittenFrom number (fitting (limit - size) chunks) = some error) :
      Written limit behaviour number size chunks (.error error.failure)
  | crossed
      (none : behaviour.unwrittenFrom number (fitting (limit - size) chunks) = none)
      (more : limit < size + total chunks) :
      Written limit behaviour number size chunks (.error (tooLarge limit))
  | through
      (none : behaviour.unwrittenFrom number (fitting (limit - size) chunks) = none)
      (all : size + total chunks ≤ limit) :
      Written limit behaviour number size chunks (.ok (size + total chunks))

/-- A chunk that was taken stands in front of the others. -/
theorem Written.cons {behaviour : Behaviour} {number size : Nat} {chunk : ByteArray}
    {rest : List ByteArray} {result : Except Failure Nat} (fits : size + chunk.size ≤ limit)
    (taken : behaviour.unwritten number = none)
    (written : Written limit behaviour (number + 1) (size + chunk.size) rest result) :
    Written limit behaviour number size (chunk :: rest) result := by
  have first : behaviour.unwrittenFrom number (fitting (limit - size) (chunk :: rest)) =
      behaviour.unwrittenFrom (number + 1) (fitting (limit - (size + chunk.size)) rest) := by
    rw [fitting, if_pos (by omega), Behaviour.unwrittenFrom, List.range'_succ,
      List.findSome?_cons, taken, Nat.sub_sub]
    rfl
  cases written with
  | failed found => exact .failed (first.trans found)
  | crossed none more => exact .crossed (first.trans none) (by rw [total]; omega)
  | through none all =>
      rw [Nat.add_assoc]
      exact .through (first.trans none) (by rw [total]; omega)

/-- Chunks are written behind each other as far as the limit and the disk allow. -/
theorem run_writeAll (chunks : List ByteArray) (size : Nat) (scene : Scene)
    (counted : scene.written scene.requests = size) (fits : size ≤ limit) :
    Written limit (script (scene.requests - 1)) scene.chunks size chunks
        ((writeAll limit size chunks).run (answer script) scene).1 ∧
      Within limit scene ((writeAll limit size chunks).run (answer script) scene).2 ∧
      ∀ count start, ((writeAll limit size chunks).run (answer script) scene).1 = .ok count →
        scene.content = some start →
        ((writeAll limit size chunks).run (answer script) scene).2.content =
          some (chunks.foldl (· ++ ·) start) := by
  have bounded : scene.written scene.requests ≤ limit := Nat.le_trans (Nat.le_of_eq counted) fits
  induction chunks generalizing size scene with
  | nil =>
      refine ⟨?_, within_of_same rfl rfl rfl bounded, fun _ _ _ begun => begun⟩
      exact .through rfl fits
  | cons chunk rest ih =>
      by_cases above : limit < size + chunk.size
      · have stops : (writeAll limit size (chunk :: rest)).run (answer script) scene =
            (.error (tooLarge limit), scene) := by
          rw [writeAll, if_pos above, run_pure]
        rw [stops]
        refine ⟨.crossed ?_ ?_, within_of_same rfl rfl rfl bounded, fun _ _ wrong => by cases wrong⟩
        · rw [fitting, if_neg (by omega)]
          rfl
        · rw [total]
          omega
      · have fitsToo : size + chunk.size ≤ limit := Nat.le_of_not_lt above
        have handed {content : ByteArray} : Within limit scene (scene.write chunk content) :=
          within_write (by omega)
        cases taken : (script (scene.requests - 1)).unwritten scene.chunks with
        | some error =>
            have stops : (writeAll limit size (chunk :: rest)).run (answer script) scene =
                (.error error.failure, scene.write chunk
                  ((scene.bytes ++ chunk).extract 0 (script (scene.requests - 1)).kept)) := by
              rw [writeAll, if_neg above, run_ask_bind]
              simp only [answer, taken]
              rfl
            rw [stops]
            refine ⟨.failed ?_, handed, fun _ _ wrong => by cases wrong⟩
            rw [fitting, if_pos (by omega), Behaviour.unwrittenFrom, List.range'_succ,
              List.findSome?_cons, taken]
        | none =>
            have goesOn : (writeAll limit size (chunk :: rest)).run (answer script) scene =
                (writeAll limit (size + chunk.size) rest).run (answer script)
                  (scene.write chunk (scene.bytes ++ chunk)) := by
              rw [writeAll, if_neg above, run_ask_bind]
              simp only [answer, taken]
            have countedToo : (scene.write chunk (scene.bytes ++ chunk)).written
                (scene.write chunk (scene.bytes ++ chunk)).requests = size + chunk.size := by
              rw [← counted]
              exact if_pos rfl
            obtain ⟨written, within, stands⟩ := ih (size + chunk.size)
              (scene.write chunk (scene.bytes ++ chunk)) countedToo fitsToo
              (Nat.le_trans (Nat.le_of_eq countedToo) fitsToo)
            rw [goesOn]
            refine ⟨written.cons fitsToo taken, handed.trans within, ?_⟩
            intro count start ends begun
            rw [stands count _ ends rfl, Scene.bytes, begun]
            rfl

/-- How the storing of a body ends: as the first of all that can happen to it says. -/
inductive Stored (limit : Nat) (behaviour : Behaviour) (reply : Reply) :
    Except Failure Nat → Prop
  | uncreated {error : FileError} (uncreated : behaviour.uncreated = some error) :
      Stored limit behaviour reply (.error error.failure)
  | unwritten {error : FileError} (created : behaviour.uncreated = none)
      (found : behaviour.unwrittenFrom 0 (fitting limit reply.chunks) = some error) :
      Stored limit behaviour reply (.error error.failure)
  | crossed (created : behaviour.uncreated = none)
      (none : behaviour.unwrittenFrom 0 (fitting limit reply.chunks) = Option.none)
      (more : limit < total reply.chunks) :
      Stored limit behaviour reply (.error (tooLarge limit))
  | brokeOff {reason : Fault} (created : behaviour.uncreated = none)
      (none : behaviour.unwrittenFrom 0 (fitting limit reply.chunks) = Option.none)
      (all : total reply.chunks ≤ limit) (breaksOff : reply.breaksOff = some reason) :
      Stored limit behaviour reply (.error (faultFailure reason))
  | unflushed {error : FileError} (created : behaviour.uncreated = none)
      (none : behaviour.unwrittenFrom 0 (fitting limit reply.chunks) = Option.none)
      (all : total reply.chunks ≤ limit) (whole : reply.breaksOff = Option.none)
      (unflushed : behaviour.unflushed = some error) :
      Stored limit behaviour reply (.error error.failure)
  | through (created : behaviour.uncreated = none)
      (none : behaviour.unwrittenFrom 0 (fitting limit reply.chunks) = Option.none)
      (all : total reply.chunks ≤ limit) (whole : reply.breaksOff = Option.none)
      (flushed : behaviour.unflushed = Option.none) :
      Stored limit behaviour reply (.ok (total reply.chunks))

theorem run_store (reply : Reply) (scene : Scene) (counted : scene.written scene.requests = 0)
    (fresh : scene.chunks = 0) :
    Stored limit (script (scene.requests - 1)) reply
        ((store limit reply).run (answer script) scene).1 ∧
      Within limit scene ((store limit reply).run (answer script) scene).2 ∧
      ∀ count, ((store limit reply).run (answer script) scene).1 = .ok count →
        ((store limit reply).run (answer script) scene).2.content =
          some (reply.chunks.foldl (· ++ ·) ByteArray.empty) := by
  have bounded : scene.written scene.requests ≤ limit := counted ▸ Nat.zero_le limit
  cases created : (script (scene.requests - 1)).uncreated with
  | some error =>
      have stops : (store limit reply).run (answer script) scene =
          (.error error.failure, scene) := by
        rw [store, run_ask_bind]
        simp only [answer, created]
        rfl
      rw [stops]
      exact ⟨.uncreated created, within_of_same rfl rfl rfl bounded, fun _ wrong => by cases wrong⟩
  | none =>
      obtain ⟨written, within, stands⟩ := @run_writeAll script limit reply.chunks 0
        { scene with content := some ByteArray.empty } counted (Nat.zero_le limit)
      have opened : Within limit scene { scene with content := some ByteArray.empty } :=
        within_of_same rfl rfl rfl bounded
      rw [store, run_ask_bind]
      simp only [answer, created]
      rw [run_bind]
      generalize (writeAll limit 0 reply.chunks).run (answer script)
        { scene with content := some ByteArray.empty } = wrote at written within stands ⊢
      obtain ⟨told, after⟩ := wrote
      simp only [fresh] at written
      cases written with
      | failed found =>
          exact ⟨.unwritten created found, opened.trans within, fun _ wrong => by cases wrong⟩
      | crossed none more =>
          rw [Nat.zero_add] at more
          exact ⟨.crossed created none more, opened.trans within, fun _ wrong => by cases wrong⟩
      | through none all =>
          have file := stands _ _ rfl rfl
          rw [Nat.zero_add] at all
          cases breaksOff : reply.breaksOff with
          | some reason =>
              exact ⟨.brokeOff created none all breaksOff, opened.trans within,
                fun _ wrong => by cases wrong⟩
          | none =>
              have same : after.requests = scene.requests := within.requests
              have kept : after.written after.requests ≤ limit := by
                rw [same]
                exact within.bounded
              rw [run_ask_bind]
              simp only [answer, same]
              cases flushed : (script (scene.requests - 1)).unflushed with
              | some error =>
                  exact ⟨.unflushed created none all breaksOff flushed,
                    (opened.trans within).trans (within_of_same same.symm rfl rfl kept),
                    fun _ wrong => by cases wrong⟩
              | none =>
                  refine ⟨?_, opened.trans within, fun _ _ => file⟩
                  have whole := Stored.through created none all breaksOff flushed
                  rwa [← Nat.zero_add (total reply.chunks)] at whole

theorem refused_eq (reply : Reply) :
    refused reply = ⟨.downloadFailed, "HTTP " ++ Text.decimal reply.status,
      (Ending.refused reply.status).passes⟩ := by
  simp [refused, Failure.withRetryable, Failure.of, Ending.passes, Reply.isServerError]

/-- The file of a download that succeeded holds the body of the reply, which is neither empty nor
above the limit. -/
def Holds (limit : Nat) (behaviour : Behaviour) (downloaded : Downloaded) (after : Scene) : Prop :=
  ∃ reply content, behaviour.reply = .ok reply ∧ reply.body = .ok content ∧
    after.content = some content ∧ downloaded.size = content.size ∧ 0 < content.size ∧
    content.size ≤ limit

/-- A body that is not stored is the end of the try. -/
theorem Stored.outcome {behaviour : Behaviour} {reply : Reply} {failure : Failure}
    (stored : Stored limit behaviour reply (.error failure))
    (answered : behaviour.reply = .ok reply)
    (granted : ¬ (reply.isClientError || reply.isServerError) = true)
    (small : ¬ (reply.declared.any (limit < ·)) = true) :
    (behaviour.ending limit).outcome limit = .error failure := by
  simp only [Behaviour.ending, answered, if_neg granted, if_neg small]
  cases stored with
  | uncreated uncreated =>
      simp only [uncreated]
      rfl
  | unwritten created found =>
      simp only [created, found]
      rfl
  | crossed created none more =>
      simp only [created, none, if_pos more]
      rfl
  | brokeOff created none all breaksOff =>
      simp only [created, none, if_neg (Nat.not_lt.mpr all), breaksOff]
      rfl
  | unflushed created none all whole unflushed =>
      simp only [created, none, if_neg (Nat.not_lt.mpr all), whole, unflushed]
      rfl

/-- A body that is stored is empty, or it is the whole file. -/
theorem Stored.ending {behaviour : Behaviour} {reply : Reply} {size : Nat}
    (stored : Stored limit behaviour reply (.ok size)) (answered : behaviour.reply = .ok reply)
    (granted : ¬ (reply.isClientError || reply.isServerError) = true)
    (small : ¬ (reply.declared.any (limit < ·)) = true) :
    behaviour.ending limit = if size = 0 then .empty else .whole size reply.contentType? := by
  simp only [Behaviour.ending, answered, if_neg granted, if_neg small]
  cases stored with
  | through created none all whole flushed =>
      simp only [created, none, if_neg (Nat.not_lt.mpr all), whole, flushed]

theorem Stored.holds {behaviour : Behaviour} {reply : Reply} {size : Nat} {after : Scene}
    (stored : Stored limit behaviour reply (.ok size)) (answered : behaviour.reply = .ok reply)
    (something : size ≠ 0)
    (file : after.content = some (reply.chunks.foldl (· ++ ·) ByteArray.empty)) :
    Holds limit behaviour ⟨size, reply.contentType?⟩ after := by
  cases stored with
  | through created none all whole flushed =>
      have length : (reply.chunks.foldl (· ++ ·) ByteArray.empty).size = total reply.chunks := by
        rw [size_foldl]
        exact Nat.zero_add _
      exact ⟨reply, _, answered, body_of_whole whole, file, length.symm, by omega, by omega⟩

/-- A try comes to what its end amounts to. -/
structure Tries (limit : Nat) (behaviour : Behaviour) (scene : Scene)
    (tried : Except Failure Downloaded × Scene) : Prop where
  outcome : tried.1 = (behaviour.ending limit).outcome limit
  within : Within limit scene tried.2
  holds : ∀ downloaded, tried.1 = .ok downloaded → Holds limit behaviour downloaded tried.2

theorem run_accept (reply : Reply) (scene : Scene)
    (answered : (script (scene.requests - 1)).reply = .ok reply)
    (counted : scene.written scene.requests = 0) (fresh : scene.chunks = 0) :
    Tries limit (script (scene.requests - 1)) scene
      ((accept limit reply).run (answer script) scene) := by
  have bounded : scene.written scene.requests ≤ limit := counted ▸ Nat.zero_le limit
  have stays : Within limit scene scene := within_of_same rfl rfl rfl bounded
  by_cases refuses : (reply.isClientError || reply.isServerError) = true
  · have stops : (accept limit reply).run (answer script) scene =
        (.error (refused reply), scene) := by
      rw [accept, if_pos refuses]
      rfl
    rw [stops]
    refine ⟨?_, stays, fun _ wrong => by cases wrong⟩
    simp only [Behaviour.ending, answered, if_pos refuses]
    rw [refused_eq]
    rfl
  · by_cases declares : (reply.declared.any (limit < ·)) = true
    · have stops : (accept limit reply).run (answer script) scene =
          (.error (tooLarge limit), scene) := by
        rw [accept, if_neg refuses, if_pos declares]
        rfl
      rw [stops]
      refine ⟨?_, stays, fun _ wrong => by cases wrong⟩
      simp only [Behaviour.ending, answered, if_neg refuses, if_pos declares]
      rfl
    · obtain ⟨stored, within, file⟩ := @run_store script limit reply scene counted fresh
      rw [accept, if_neg refuses, if_neg declares, run_bind]
      generalize (store limit reply).run (answer script) scene = stores at stored within file ⊢
      obtain ⟨told, after⟩ := stores
      cases told with
      | error failure =>
          exact ⟨(stored.outcome answered refuses declares).symm, within,
            fun _ wrong => by cases wrong⟩
      | ok size =>
          have ends := stored.ending answered refuses declares
          by_cases nothing : size = 0
          · subst nothing
            exact ⟨(congrArg (Ending.outcome limit) ends).symm, within,
              fun _ wrong => by cases wrong⟩
          · simp only [if_neg nothing] at ends ⊢
            refine ⟨(congrArg (Ending.outcome limit) ends).symm, within, fun downloaded same => ?_⟩
            cases same
            exact stored.holds answered nothing (file _ rfl)

/-- A try makes one request and takes its reply. -/
theorem run_attempt (download : Download) (scene : Scene) :
    Tries download.limit (script scene.requests) scene.ask
      (download.attempt.run (answer script) scene) := by
  have counted : scene.ask.written scene.ask.requests = 0 := if_pos rfl
  rw [attempt, run_ask_bind]
  cases answered : (script scene.requests).reply with
  | error reason =>
      simp only [answer, answered]
      refine ⟨?_, within_of_same rfl rfl rfl (counted ▸ Nat.zero_le _), ?_⟩
      · simp only [Behaviour.ending, answered]
        rfl
      · intro _ wrong
        cases wrong
  | ok reply =>
      simp only [answer, answered]
      exact run_accept reply scene.ask answered counted rfl

end

/-! ## All tries -/

/-- How a download goes that has had some tries and has some left: the ends of a number of further
tries pass, with a pause behind each of them, and the download comes to what one more try
amounts to. -/
structure Goes (download : Download) (script : Nat → Behaviour) (tries left : Nat) (scene : Scene)
    (gone : Except Failure Downloaded × Scene) (further : Nat) : Prop where
  few : further ≤ left
  requests : gone.2.requests = scene.requests + further + 1
  again : ∀ n < further, ((script (scene.requests + n)).ending download.limit).passes = true
  last : further < left →
    ((script (scene.requests + further)).ending download.limit).passes = false
  waits : gone.2.waits = scene.waits ++ (List.range' tries further).map download.pauseAfter
  outcome : gone.1 =
    ((script (scene.requests + further)).ending download.limit).outcome download.limit
  holds : ∀ downloaded, gone.1 = .ok downloaded →
    Holds download.limit (script (scene.requests + further)) downloaded gone.2
  bounded : (∀ n, scene.written n ≤ download.limit) → ∀ n, gone.2.written n ≤ download.limit

section

variable {download : Download} {script : Nat → Behaviour} {tries left : Nat} {scene : Scene}
  {tried : Except Failure Downloaded × Scene}

theorem Tries.bounded {limit : Nat} {behaviour : Behaviour}
    (once : Tries limit behaviour scene.ask tried)
    (bounded : ∀ n, scene.written n ≤ limit) (n : Nat) :
    tried.2.written n ≤ limit := by
  by_cases own : n = scene.ask.requests
  · rw [own]
    exact once.within.bounded
  · have same : scene.ask.written n = scene.written n := if_neg own
    rw [once.within.others n own, same]
    exact bounded n

/-- Where no other try follows, the download comes to the one that was made. -/
theorem Tries.goes (once : Tries download.limit (script scene.requests) scene.ask tried)
    (last : 0 < left → ((script scene.requests).ending download.limit).passes = false) :
    Goes download script tries left scene tried 0 where
  few := Nat.zero_le left
  requests := once.within.requests
  again n wrong := by omega
  last := last
  waits := once.within.waits.trans (List.append_nil scene.waits).symm
  outcome := once.outcome
  holds := once.holds
  bounded := once.bounded

theorem Tries.passes_iff {behaviour : Behaviour}
    (once : Tries download.limit behaviour scene tried) :
    (behaviour.ending download.limit).passes = true ↔
      ∃ failure, tried.1 = .error failure ∧ failure.retryable = true := by
  rw [once.outcome]
  exact Ending.passes_iff download.limit _

/-- A pause, and the tries behind it. -/
theorem Goes.after {middle : Scene} {gone : Except Failure Downloaded × Scene} {further : Nat}
    {failure : Failure}
    (once : Tries download.limit (script scene.requests) scene.ask (.error failure, middle))
    (passes : ((script scene.requests).ending download.limit).passes = true)
    (rest : Goes download script (tries + 1) left
      { middle with waits := middle.waits ++ [download.pauseAfter tries] } gone further) :
    Goes download script tries (left + 1) scene gone (further + 1) := by
  have made : middle.requests = scene.requests + 1 := once.within.requests
  have waited : middle.waits = scene.waits := once.within.waits
  have place (n : Nat) : middle.requests + n = scene.requests + (n + 1) := by omega
  refine {
    few := Nat.succ_le_succ rest.few
    requests := ?_
    again := fun n before => ?_
    last := fun below => ?_
    waits := ?_
    outcome := ?_
    holds := fun downloaded same => ?_
    bounded := fun bounded => rest.bounded (once.bounded bounded) }
  · rw [rest.requests]
    exact congrArg (· + 1) (place further)
  · cases n with
    | zero => exact passes
    | succ n =>
        rw [← place n]
        exact rest.again n (Nat.lt_of_succ_lt_succ before)
  · rw [← place further]
    exact rest.last (Nat.lt_of_succ_lt_succ below)
  · rw [rest.waits, waited, List.range'_succ, List.map_cons, List.append_assoc]
    rfl
  · rw [← place further]
    exact rest.outcome
  · rw [← place further]
    exact rest.holds downloaded same

/-- A download goes on as long as the end of a try passes and tries are left. -/
theorem run_tryFrom (download : Download) (script : Nat → Behaviour) (left tries : Nat)
    (scene : Scene) :
    ∃ further, Goes download script tries left scene
      ((download.tryFrom tries left).run (answer script) scene) further := by
  induction left generalizing tries scene with
  | zero => exact ⟨0, (run_attempt download scene).goes (fun wrong => by omega)⟩
  | succ left ih =>
      have once := @run_attempt script download scene
      rw [tryFrom, run_bind]
      generalize download.attempt.run (answer script) scene = tried at once ⊢
      obtain ⟨told, middle⟩ := tried
      cases told with
      | ok downloaded =>
          refine ⟨0, once.goes fun _ => Bool.eq_false_iff.mpr fun passes => ?_⟩
          obtain ⟨failure, wrong, _⟩ := once.passes_iff.mp passes
          cases wrong
      | error failure =>
          cases again : failure.retryable with
          | true =>
              simp only [again, if_true]
              rw [run_ask_bind]
              obtain ⟨further, rest⟩ := ih (tries + 1)
                { middle with waits := middle.waits ++ [download.pauseAfter tries] }
              exact ⟨further + 1,
                Goes.after once (once.passes_iff.mpr ⟨failure, rfl, again⟩) rest⟩
          | false =>
              simp only [again, Bool.false_eq_true, if_false]
              refine ⟨0, once.goes fun _ => Bool.eq_false_iff.mpr fun passes => ?_⟩
              obtain ⟨other, same, retryable⟩ := once.passes_iff.mp passes
              cases same
              rw [again] at retryable
              cases retryable

end

/-! ## The whole download -/

/-- The behaviour for a request is the first whose end is not worth another try. -/
def IsFirstFinal (limit : Nat) (script : Nat → Behaviour) (n : Nat) : Prop :=
  ((script n).ending limit).passes = false ∧
    ∀ earlier < n, ((script earlier).ending limit).passes = true

/-- What is to be seen of a download. -/
structure Downloads (download : Download) (script : Nat → Behaviour)
    (gone : Except Failure Downloaded × Scene) : Prop where
  /-- Requests are made up to the first that ends for good, but no more than the retries allow. -/
  requests : ∀ n, IsFirstFinal download.limit script n →
    gone.2.requests = min (download.retries + 1) (n + 1)
  exhausted : (∀ n, ((script n).ending download.limit).passes = true) →
    gone.2.requests = download.retries + 1
  /-- The download comes to what the last request comes to. -/
  outcome : gone.1 =
    ((script (gone.2.requests - 1)).ending download.limit).outcome download.limit
  /-- A try is worth another one exactly if its failure says so. -/
  passes : ∀ ending : Ending, ending.passes = true ↔
    ∃ failure, ending.outcome download.limit = .error failure ∧ failure.retryable = true
  /-- The pauses between requests double. -/
  waits : gone.2.waits = (List.range (gone.2.requests - 1)).map fun n =>
    ⟨min (download.pause.nanos * min (Nat.pow 2 n) 0xffffffff) Time.Span.greatest.nanos⟩
  /-- The file of a download that succeeded holds the body of the last reply. -/
  holds : ∀ downloaded, gone.1 = .ok downloaded →
    Holds download.limit (script (gone.2.requests - 1)) downloaded gone.2
  /-- No try hands the disk more bytes than the limit. -/
  bounded : ∀ n, gone.2.written n ≤ download.limit

/-- The tries that follow the first go on up to the first end for good, or until none is left. -/
theorem Goes.counted {download : Download} {script : Nat → Behaviour}
    {gone : Except Failure Downloaded × Scene} {left further n : Nat} {content : Option ByteArray}
    (goes : Goes download script 0 left { content } gone further)
    (first : IsFirstFinal download.limit script n) : further = min left n := by
  have few := goes.few
  have notBefore : ¬ (further < left ∧ further < n) := by
    rintro ⟨below, before⟩
    have final := goes.last below
    rw [Nat.zero_add, first.2 further before] at final
    cases final
  have notBehind : ¬ n < further := by
    intro behind
    have passes := goes.again n behind
    rw [Nat.zero_add, first.1] at passes
    cases passes
  omega

/-- Whatever the server and the disk do, whatever stands at the destination before, a download
makes the requests that it should, waits as it should, comes to what the last request amounts to,
and leaves the body of the last reply if it succeeds. -/
theorem talk_downloads (download : Download) (script : Nat → Behaviour)
    (content : Option ByteArray) :
    Downloads download script (download.talk.run (answer script) { content }) := by
  rw [talk, run_ask_bind]
  simp only [answer]
  obtain ⟨further, goes⟩ := run_tryFrom download script download.retries 0 { content }
  have requests :
      ((download.tryFrom 0 download.retries).run (answer script) { content }).2.requests =
        further + 1 := by
    rw [goes.requests]
    exact congrArg (· + 1) (Nat.zero_add further)
  have place : 0 + further = further + 1 - 1 := by omega
  exact {
    requests := fun n first => by
      rw [requests, goes.counted first]
      omega
    exhausted := fun always => by
      rw [requests]
      have all : further = download.retries := by
        rcases Nat.lt_or_eq_of_le goes.few with below | all
        · have final := goes.last below
          rw [always] at final
          cases final
        · exact all
      rw [all]
    outcome := by
      rw [requests, ← place]
      exact goes.outcome
    passes := Ending.passes_iff download.limit
    waits := by
      rw [requests, goes.waits, Nat.add_sub_cancel, List.range_eq_range']
      rfl
    holds := by
      rw [requests, ← place]
      exact goes.holds
    bounded := goes.bounded fun _ => Nat.zero_le _ }

/-- The longer file of a try that broke off does not show in the shorter file of the next one. -/
example :
    let long : Reply :=
      { status := 200, chunks := ["one ".toUTF8, "two".toUTF8], breaksOff := some (.broken false) }
    let short : Reply := { status := 200, chunks := ["one".toUTF8] }
    let gone := (talk { limit := 7 }).run
      (answer fun n => { reply := .ok (if n = 0 then long else short) }) {}
    gone.1 = .ok ⟨3, none⟩ ∧ gone.2.requests = 2 ∧ gone.2.content = some "one".toUTF8 :=
  ⟨rfl, rfl, rfl⟩

end Scribe.Download
