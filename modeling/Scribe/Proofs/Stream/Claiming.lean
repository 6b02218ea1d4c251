import Mathlib.Data.List.Forall2
import Scribe.Proofs.Stream.Order
import Scribe.Proofs.Stream.Wire

/-!
# Passes over abandoned entries

Now and then a poll passes over the entries that nobody has acknowledged, and claims those that
another consumer has left lying for long.  In a pass it claims all of these and no others, in
the order in which they were listed.  A pass is dated before it is made, so that one that fails
counts as well, and the next one has to wait.  It is made only when no message waits, and what
goes wrong in it leaves the consumer as it was and the poll to go on to what is new.
-/

namespace Scribe.Stream

open Scribe.Broker (Message Error)
open Scribe.Dialogue

/-! ## Passes -/

/-- The entries that lie with another consumer for at least so many milliseconds, by their
ids. -/
def overdue (name : String) (millis : Nat) (unfinished : List Unfinished) : List String :=
  (unfinished.filter fun entry => decide ((millis : Int) ≤ entry.idle ∧ entry.owner ≠ name)).map
    Unfinished.id

/-- A pass: when it was made and over which group, the answer to the list of unfinished
entries, and the answer to the claim if one was made. -/
structure Pass where
  now : Time.Span
  on : Group
  listed : Read Reply
  handed : Read Reply

namespace Pass

/-- The entries that were listed, none if the answer cannot be read. -/
def unfinished (pass : Pass) : List Unfinished :=
  (pass.listed.bind Consumer.unfinishedOf).toOption.getD []

/-- The claim of a pass: all that is overdue, and no claim if nothing is. -/
def claim (name : String) (millis : Nat) (pass : Pass) : List Exchange :=
  if (overdue name millis pass.unfinished).isEmpty then []
  else
    [⟨.command (.claim pass.on name millis (overdue name millis pass.unfinished)), pass.handed⟩]

/-- What is exchanged in a pass. -/
def exchanges (name : String) (millis : Nat) (pass : Pass) : List Exchange :=
  [⟨.clock, pass.now⟩, ⟨.command (.pending pass.on Consumer.batch), pass.listed⟩] ++
    pass.claim name millis

/-- A pass fails if the entries cannot be listed, be it that the group is gone, or if those
that were claimed are not handed over. -/
def Failed (name : String) (millis : Nat) (pass : Pass) : Prop :=
  (∃ fault, pass.listed.bind Consumer.unfinishedOf = .error fault) ∨
    overdue name millis pass.unfinished ≠ [] ∧
      ∃ fault, pass.handed.bind Consumer.claimedOf = .error fault

end Pass

namespace Pass

variable {name : String} {millis : Nat} {pass : Pass}

theorem unfinished_of_ok {entries : List Unfinished}
    (listed : pass.listed.bind Consumer.unfinishedOf = .ok entries) :
    pass.unfinished = entries := by
  rw [unfinished, listed]
  rfl

theorem unfinished_of_error {fault : Fault}
    (listed : pass.listed.bind Consumer.unfinishedOf = .error fault) : pass.unfinished = [] := by
  rw [unfinished, listed]
  rfl

/-- A pass in which nothing is overdue claims nothing. -/
theorem exchanges_of_none (none : overdue name millis pass.unfinished = []) :
    pass.exchanges name millis =
      [⟨.clock, pass.now⟩, ⟨.command (.pending pass.on Consumer.batch), pass.listed⟩] := by
  rw [exchanges, claim, none]
  rfl

/-- A pass in which something is overdue claims all of it. -/
theorem exchanges_of_some (some : (overdue name millis pass.unfinished).isEmpty = false) :
    pass.exchanges name millis =
      [⟨.clock, pass.now⟩, ⟨.command (.pending pass.on Consumer.batch), pass.listed⟩,
        ⟨.command (.claim pass.on name millis (overdue name millis pass.unfinished)),
          pass.handed⟩] := by
  rw [exchanges, claim, some]
  rfl

end Pass

/-- Whether a question lists unfinished entries or claims them. -/
def Question.isSweep : Question → Bool
  | .command (.pending _ _) => true
  | .command (.claim _ _ _ _) => true
  | _ => false

/-- Whether a question does no more than read entries, make the group for that, look at the
clock or wait.  No entry changes hands by it, and none is acknowledged. -/
def Question.isReading : Question → Bool
  | .command (.readGroup _ _ _ _) => true
  | .command (.createGroup _) => true
  | .clock => true
  | .sleep _ => true
  | _ => false

theorem Question.isSweep_of_isReading {question : Question} (reading : question.isReading = true) :
    question.isSweep = false := by
  cases question with
  | command command => cases command <;> first | rfl | cases reading
  | _ => rfl

/-- Exchanges that are made of a pass, or of none, and others before and after it. -/
def surround (name : String) (millis : Nat) (pass : Option Pass) (front back : List Exchange) :
    List Exchange :=
  front ++ pass.elim [] (Pass.exchanges name millis) ++ back

/-- Exchanges with one pass or none: outside of it nothing is listed and nothing claimed. -/
def Makes (name : String) (millis : Nat) (pass : Option Pass) (exchanges : List Exchange) :
    Prop :=
  ∃ front back, exchanges = surround name millis pass front back ∧
    ∀ exchange ∈ front ++ back, exchange.question.isSweep = false

namespace Consumer

/-! ## What a pass does to a consumer -/

theorem minIdle_of_millis {consumer : Consumer} {millis : Nat}
    (idle : consumer.claimIdle = Time.Span.ofMillis millis) (small : millis ≤ Text.maxSigned64) :
    consumer.minIdle = millis := by
  have whole : consumer.claimIdle.millis = millis := by
    rw [idle]
    change millis * 1000000 / 1000000 = millis
    omega
  have sent := consumer.minIdle_eq_millis_iff
  rw [whole] at sent
  exact sent.mpr small

variable {consumer after : Consumer} {millis : Nat} {exchanges : List Exchange}

theorem abandoned_eq_overdue (least : consumer.minIdle = millis) (unfinished : List Unfinished) :
    consumer.abandoned unfinished = overdue consumer.name millis unfinished := by
  have same : consumer.mayClaim =
      fun entry => decide ((millis : Int) ≤ entry.idle ∧ entry.owner ≠ consumer.name) := by
    funext entry
    rw [mayClaim, least, Bool.decide_and, bne, Bool.beq_eq_decide_eq, ← decide_not]
  rw [abandoned, same, overdue]

/-- A consumer that is the same as far as passes are concerned, but for when the last one was
made. -/
structure Alike (consumer after : Consumer) : Prop where
  name : after.name = consumer.name
  claimIdle : after.claimIdle = consumer.claimIdle

theorem alike_refl (consumer : Consumer) : Alike consumer consumer :=
  ⟨rfl, rfl⟩

theorem Alike.trans {between : Consumer} (alike : Alike consumer between)
    (more : Alike between after) : Alike consumer after :=
  ⟨more.name.trans alike.name, more.claimIdle.trans alike.claimIdle⟩

theorem Alike.minIdle (alike : Alike consumer after) : after.minIdle = consumer.minIdle :=
  congrArg (fun idle : Time.Span => Int.bmod idle.millis 0x10000000000000000) alike.claimIdle

/-- The exchanges in which entries are taken over are those of a pass, after a look at the
clock.  If the pass fails, no message comes of it and the consumer is as it was. -/
theorem Claims.pass {result : Except Fault (List Message)}
    (claims : Claims consumer exchanges (result, after)) (least : consumer.minIdle = millis)
    (now : Time.Span) :
    ∃ pass : Pass, pass.now = now ∧ pass.on = consumer.on ∧
      ⟨.clock, now⟩ :: exchanges = pass.exchanges consumer.name millis ∧
      Alike consumer after ∧ after.lastClaim = consumer.lastClaim ∧
      (pass.Failed consumer.name millis →
        result.toOption.getD [] = [] ∧ after = consumer) := by
  cases claims with
  | groupless answer fault listed gone =>
      let pass : Pass := ⟨now, consumer.on, answer, answer⟩
      have empty : pass.unfinished = [] := Pass.unfinished_of_error listed
      refine ⟨pass, rfl, rfl, ?_, alike_refl _, rfl, fun _ => ⟨rfl, rfl⟩⟩
      rw [Pass.exchanges_of_none (by rw [empty]; rfl)]
  | unlisted answer fault listed other =>
      let pass : Pass := ⟨now, consumer.on, answer, answer⟩
      have empty : pass.unfinished = [] := Pass.unfinished_of_error listed
      refine ⟨pass, rfl, rfl, ?_, alike_refl _, rfl, fun _ => ⟨rfl, rfl⟩⟩
      rw [Pass.exchanges_of_none (by rw [empty]; rfl)]
  | nothing answer unfinished listed none =>
      let pass : Pass := ⟨now, consumer.on, answer, answer⟩
      have told : pass.unfinished = unfinished := Pass.unfinished_of_ok listed
      rw [abandoned_eq_overdue least, ← told] at none
      refine ⟨pass, rfl, rfl, ?_, alike_refl _, rfl, fun _ => ⟨rfl, rfl⟩⟩
      rw [Pass.exchanges_of_none (List.isEmpty_iff.mp none)]
  | refused answer reply unfinished fault listed some claimed =>
      let pass : Pass := ⟨now, consumer.on, answer, reply⟩
      have told : pass.unfinished = unfinished := Pass.unfinished_of_ok listed
      rw [abandoned_eq_overdue least, ← told] at some ⊢
      refine ⟨pass, rfl, rfl, ?_, alike_refl _, rfl, fun _ => ⟨rfl, rfl⟩⟩
      rw [Pass.exchanges_of_some some, least]
  | taken answer reply unfinished entries listed some claimed =>
      let pass : Pass := ⟨now, consumer.on, answer, reply⟩
      have told : pass.unfinished = unfinished := Pass.unfinished_of_ok listed
      rw [abandoned_eq_overdue least, ← told] at some ⊢
      rw [receiveAll_eq]
      refine ⟨pass, rfl, rfl, ?_, ⟨rfl, rfl⟩, rfl, ?_⟩
      · rw [Pass.exchanges_of_some some, least]
      · rintro (⟨fault, unlisted⟩ | ⟨_, fault, unhanded⟩)
        · cases listed.symm.trans unlisted
        · cases claimed.symm.trans unhanded

/-- A due pass is made with its own date, and one that fails leaves nothing but that date. -/
theorem ClaimsWhenDue.pass (claims : ClaimsWhenDue consumer exchanges after)
    (least : consumer.minIdle = millis) :
    Alike consumer after ∧
      ((∃ now, exchanges = [⟨.clock, now⟩] ∧ after = consumer) ∨
        ∃ pass : Pass, exchanges = pass.exchanges consumer.name millis ∧
          pass.on = consumer.on ∧ consumer.claimDue pass.now = true ∧
          after.lastClaim = some pass.now ∧
          (pass.Failed consumer.name millis →
            after = { consumer with lastClaim := some pass.now })) := by
  cases claims with
  | early now due => exact ⟨alike_refl _, Or.inl ⟨now, rfl, rfl⟩⟩
  | added now due messages between claims =>
      obtain ⟨pass, rfl, on, same, alike, dated, vain⟩ := claims.pass least now
      refine ⟨⟨alike.name, alike.claimIdle⟩, Or.inr ⟨pass, same, on, due, dated, ?_⟩⟩
      intro failed
      obtain ⟨none, rfl⟩ := vain failed
      obtain rfl : messages = [] := none
      rw [List.append_nil]
  | failed now due fault _ claims =>
      obtain ⟨pass, rfl, on, same, alike, dated, vain⟩ := claims.pass least now
      exact ⟨⟨alike.name, alike.claimIdle⟩,
        Or.inr ⟨pass, same, on, due, dated, fun failed => (vain failed).2⟩⟩

/-! ## What a poll does -/

theorem Reads.reading {behind : String} {wait : Option Nat}
    {result : Except Error (Option Message)}
    (reads : Reads consumer behind wait exchanges (result, after)) :
    ∀ exchange ∈ exchanges, exchange.question.isReading = true := by
  cases reads with
  | entry => simp [Question.isReading]
  | nothing => simp [Question.isReading]
  | groupless => simp [Question.isReading]
  | failed => simp [Question.isReading]

/-- To read an entry changes no more than the count of entries. -/
theorem Reads.counted {behind : String} {wait : Option Nat}
    {result : Except Error (Option Message)}
    (reads : Reads consumer behind wait exchanges (result, after)) :
    after = { consumer with
      nextOffset := consumer.nextOffset + result.toOption.join.toList.length } := by
  cases reads with
  | entry => rfl
  | nothing => rfl
  | groupless _ _ _ result _ _ empty => rw [empty]; rfl
  | failed => rfl

/-- What a poll comes to in spite of a pass that fails.  No message waits at that time, and the
poll goes on to read what is new, with a consumer that is as it was but for the date of the pass.
So it comes to what that comes to, and every entry it has counted it returns.  Of the entries
that the server has handed over in the pass this says nothing. -/
structure Unharmed (consumer : Consumer) (timeout now : Time.Span) (back : List Exchange)
    (result : Except Error (Option Message)) (after : Consumer) : Prop where
  waiting : consumer.claimed = []
  reads : Reads { consumer with cursor := none, lastClaim := some now } ">"
    (some (max timeout.millis 1)) back (result, after)
  kept : after.claimed = consumer.claimed
  counted : after.nextOffset = consumer.nextOffset + result.toOption.join.toList.length

/-- A poll with one pass or none, whose exchanges stand between others. -/
structure Sweeps (consumer : Consumer) (timeout : Time.Span) (millis : Nat)
    (pass : Option Pass) (front back : List Exchange) (result : Except Error (Option Message))
    (after : Consumer) : Prop where
  /-- Outside of the pass entries are only read. -/
  reading : ∀ exchange ∈ front ++ back, exchange.question.isReading = true
  alike : Alike consumer after
  /-- The pass is the last one of the consumer from then on. -/
  dated : after.lastClaim = (pass.map Pass.now).or consumer.lastClaim
  due : ∀ made, pass = some made → made.on = consumer.on ∧ consumer.claimDue made.now = true
  unharmed : ∀ made, pass = some made → made.Failed consumer.name millis →
    Unharmed consumer timeout made.now back result after

/-- A poll without a pass. -/
theorem sweeps_none {timeout : Time.Span} {result : Except Error (Option Message)}
    (reading : ∀ exchange ∈ exchanges, exchange.question.isReading = true)
    (alike : Alike consumer after) (dated : after.lastClaim = consumer.lastClaim) :
    ∃ pass front back, exchanges = surround consumer.name millis pass front back ∧
      Sweeps consumer timeout millis pass front back result after := by
  refine ⟨none, exchanges, [], ?_,
    ⟨?_, alike, dated, (fun _ made => nomatch made), (fun _ made => nomatch made)⟩⟩
  · rw [surround, Option.elim_none, List.append_nil, List.append_nil]
  · rwa [List.append_nil]

theorem ReadsNew.sweeps {timeout : Time.Span} {result : Except Error (Option Message)}
    (new : ReadsNew consumer timeout exchanges (result, after))
    (least : consumer.minIdle = millis) (empty : consumer.claimed = [])
    (ended : consumer.cursor = none) :
    ∃ pass front back, exchanges = surround consumer.name millis pass front back ∧
      Sweeps consumer timeout millis pass front back result after := by
  cases new with
  | taken between message rest claims waiting =>
      obtain ⟨alike, ⟨now, rfl, rfl⟩ | ⟨pass, rfl, on, due, dated, vain⟩⟩ := claims.pass least
      · cases waiting.symm.trans empty
      · refine ⟨some pass, [], [], (List.append_nil _).symm,
          ⟨by simp, ⟨alike.name, alike.claimIdle⟩, dated, ?_, ?_⟩⟩
        · rintro _ ⟨⟩
          exact ⟨on, due⟩
        · -- A pass that fails would leave no message to be taken.
          rintro _ ⟨⟩ failed
          rw [vain failed] at waiting
          cases waiting.symm.trans empty
  | read between claims spent reads =>
      obtain ⟨alike, ⟨now, rfl, rfl⟩ | ⟨pass, rfl, on, due, dated, vain⟩⟩ := claims.pass least
      · have reading := reads.reading
        cases reads.counted
        refine sweeps_none ?_ ⟨rfl, rfl⟩ rfl
        exact List.forall_mem_cons.mpr ⟨rfl, reading⟩
      · have counted := reads.counted
        refine ⟨some pass, [], _, rfl, ⟨reads.reading, ?_, ?_, ?_, ?_⟩⟩
        · rw [counted]
          exact ⟨alike.name, alike.claimIdle⟩
        · rw [counted]
          exact dated
        · rintro _ ⟨⟩
          exact ⟨on, due⟩
        · rintro _ ⟨⟩ failed
          have same : between = { consumer with cursor := none, lastClaim := some pass.now } := by
            rw [vain failed, ← ended]
          subst same
          rw [counted]
          exact ⟨empty, counted ▸ reads, rfl, rfl⟩

theorem Polls.sweeps {timeout : Time.Span} {result : Except Error (Option Message)}
    (polls : Polls consumer timeout exchanges (result, after))
    (least : consumer.minIdle = millis) :
    ∃ pass front back, exchanges = surround consumer.name millis pass front back ∧
      Sweeps consumer timeout millis pass front back result after := by
  cases polls with
  | paused => exact sweeps_none (by simp [Question.isReading]) (alike_refl _) rfl
  | waiting => exact sweeps_none (by simp) ⟨rfl, rfl⟩ rfl
  | replayed active empty cursor place message between reads =>
      have reading := reads.reading
      cases reads.counted
      exact sweeps_none reading ⟨rfl, rfl⟩ rfl
  | failed active empty cursor place error between reads =>
      have reading := reads.reading
      cases reads.counted
      exact sweeps_none reading ⟨rfl, rfl⟩ rfl
  | @ended active empty cursor place early late _ between reads new =>
      have reading := reads.reading
      have same : between = consumer := reads.counted
      subst same
      obtain ⟨pass, front, back, rfl, sweeps⟩ := new.sweeps least empty rfl
      refine ⟨pass, early ++ front, back, ?_, ⟨?_, ?_, sweeps.dated, sweeps.due, ?_⟩⟩
      · simp only [surround, List.append_assoc]
      · rw [List.append_assoc]
        exact List.forall_mem_append.mpr ⟨reading, sweeps.reading⟩
      · exact ⟨sweeps.alike.name, sweeps.alike.claimIdle⟩
      · intro made isMade failed
        have unharmed := sweeps.unharmed made isMade failed
        exact ⟨unharmed.waiting, unharmed.reads, unharmed.kept, unharmed.counted⟩
  | new active empty place new => exact new.sweeps least empty place

/-! ## Passes of a session -/

/-- A call with one pass or none. -/
structure Paces (consumer : Consumer) (millis : Nat) (pass : Option Pass)
    (exchanges : List Exchange) (after : Consumer) : Prop where
  makes : Makes consumer.name millis pass exchanges
  alike : Alike consumer after
  dated : after.lastClaim = (pass.map Pass.now).or consumer.lastClaim
  due : ∀ made, pass = some made → consumer.claimDue made.now = true

/-- A call in which nothing is listed or claimed. -/
theorem paces_none (quiet : ∀ exchange ∈ exchanges, exchange.question.isSweep = false)
    (alike : Alike consumer after) (dated : after.lastClaim = consumer.lastClaim) :
    Paces consumer millis none exchanges after where
  makes := by
    refine ⟨exchanges, [], ?_, ?_⟩
    · rw [surround, Option.elim_none, List.append_nil, List.append_nil]
    · rwa [List.append_nil]
  alike := alike
  dated := dated
  due := fun _ made => nomatch made

theorem Obeys.paces {deed : Deed} (course : Obeys consumer deed after)
    (least : consumer.minIdle = millis) :
    ∃ pass, Paces consumer millis pass deed.exchanges after := by
  obtain ⟨call, exchanges, message⟩ := deed
  cases call with
  | subscribe topics =>
      obtain ⟨early, late, ⟨result, between⟩, rfl, subscribing, final⟩ :=
        course_bind_iff.mp course
      obtain ⟨rfl, same⟩ := course_pure_iff.mp final
      cases same
      rw [List.append_nil]
      rcases course_subscribe subscribing with ⟨stream, answer, rfl, rfl⟩ | ⟨rfl, rfl⟩
      · exact ⟨none, paces_none (by simp [Question.isSweep]) ⟨rfl, rfl⟩ rfl⟩
      · exact ⟨none, paces_none (by simp) ⟨rfl, rfl⟩ rfl⟩
  | poll timeout =>
      obtain ⟨result, _, polls⟩ := polls_of_perform course
      obtain ⟨pass, front, back, rfl, sweeps⟩ := polls.sweeps least
      refine ⟨pass, ⟨front, back, rfl, ?_⟩, sweeps.alike, sweeps.dated,
        fun made isMade => (sweeps.due made isMade).2⟩
      intro exchange member
      exact Question.isSweep_of_isReading (sweeps.reading exchange member)
  | pause =>
      obtain ⟨rfl, same⟩ := course_pure_iff.mp course
      cases same
      exact ⟨none, paces_none (by simp) ⟨rfl, rfl⟩ rfl⟩
  | resume =>
      obtain ⟨rfl, same⟩ := course_pure_iff.mp course
      cases same
      exact ⟨none, paces_none (by simp) ⟨rfl, rfl⟩ rfl⟩
  | commit acknowledged =>
      obtain ⟨early, late, result, rfl, committing, final⟩ := course_bind_iff.mp course
      obtain ⟨rfl, same⟩ := course_pure_iff.mp final
      cases same
      rw [List.append_nil]
      obtain ⟨answer, rfl⟩ := course_commit committing
      exact ⟨none, paces_none (by simp [Question.isSweep]) ⟨rfl, rfl⟩ rfl⟩

/-- Whether so much time has passed between two looks at the clock. -/
def Apart (interval earlier later : Time.Span) : Prop :=
  interval.nanos ≤ later.nanos - earlier.nanos

theorem Apart.trans {interval first second third : Time.Span} (apart : Apart interval first second)
    (more : Apart interval second third) : Apart interval first third := by
  simp only [Apart] at apart more ⊢
  omega

/-- When the passes of a consumer were made, the last one before some calls among them. -/
def dates (start : Consumer) (passes : List (Option Pass)) : List Time.Span :=
  start.lastClaim.toList ++ passes.filterMap fun pass => pass.map Pass.now

theorem apart_of_due {now last : Time.Span} (due : consumer.claimDue now = true)
    (dated : consumer.lastClaim = some last) : Apart consumer.claimInterval last now := by
  rw [claimDue, dated] at due
  have passed : consumer.claimInterval.nanos ≤ now.nanos - last.nanos := of_decide_eq_true due
  exact passed

/-- The passes of some calls. -/
structure Paced (start : Consumer) (millis : Nat) (passes : List (Option Pass))
    (deeds : List Deed) (consumer : Consumer) : Prop where
  makes : List.Forall₂ (Makes start.name millis) passes (deeds.map Deed.exchanges)
  alike : Alike start consumer
  apart : (dates start passes).Pairwise (Apart start.claimInterval)
  /-- The last pass of all is the one that the consumer goes by. -/
  last : ∀ date ∈ dates start passes, ∃ last, consumer.lastClaim = some last ∧
    (date = last ∨ Apart start.claimInterval date last)

theorem paced_start (start : Consumer) (millis : Nat) : Paced start millis [] [] start where
  makes := .nil
  alike := alike_refl start
  apart := by
    cases dated : start.lastClaim <;> simp [dates, dated]
  last := by
    intro date member
    cases dated : start.lastClaim with
    | none => simp [dates, dated] at member
    | some last =>
        obtain rfl : date = last := by simpa [dates, dated] using member
        exact ⟨date, rfl, Or.inl rfl⟩

theorem dates_append (start : Consumer) (passes : List (Option Pass)) (pass : Option Pass) :
    dates start (passes ++ [pass]) = dates start passes ++ (pass.map Pass.now).toList := by
  rw [dates, List.filterMap_append, ← List.append_assoc, ← dates]
  cases pass <;> rfl

/-- A pass that is due comes long enough after all those before it. -/
theorem Paced.spaced {start : Consumer} {passes : List (Option Pass)} {deeds : List Deed}
    {now : Time.Span} (paced : Paced start millis passes deeds consumer)
    (due : consumer.claimDue now = true) :
    ∀ date ∈ dates start passes, Apart start.claimInterval date now := by
  intro date earlier
  obtain ⟨last, dated, place⟩ := paced.last date earlier
  have apart := apart_of_due due dated
  rw [claimInterval, paced.alike.claimIdle] at apart
  rcases place with rfl | before
  · exact apart
  · exact before.trans apart

theorem Paced.step {start : Consumer} {passes : List (Option Pass)} {deeds : List Deed}
    {deed : Deed} (paced : Paced start millis passes deeds consumer)
    (course : Obeys consumer deed after) (least : start.minIdle = millis) :
    ∃ pass, Paced start millis (passes ++ [pass]) (deeds ++ [deed]) after := by
  obtain ⟨pass, paces⟩ := course.paces (paced.alike.minIdle.trans least)
  have makes := paces.makes
  rw [paced.alike.name] at makes
  have every : List.Forall₂ (Makes start.name millis) (passes ++ [pass])
      ((deeds ++ [deed]).map Deed.exchanges) := by
    rw [List.map_append]
    exact List.rel_append paced.makes (.cons makes .nil)
  refine ⟨pass, every, paced.alike.trans paces.alike, ?_, ?_⟩
  · rw [dates_append]
    cases pass with
    | none =>
        rw [Option.map_none, Option.toList_none, List.append_nil]
        exact paced.apart
    | some made =>
        refine List.pairwise_append.mpr ⟨paced.apart, List.pairwise_singleton _ _, ?_⟩
        intro date earlier now isNow
        obtain rfl := List.mem_singleton.mp isNow
        exact paced.spaced (paces.due made rfl) date earlier
  · rw [dates_append, paces.dated]
    cases pass with
    | none =>
        rw [Option.map_none, Option.toList_none, List.append_nil]
        exact paced.last
    | some made =>
        intro date member
        refine ⟨made.now, rfl, ?_⟩
        rcases List.mem_append.mp member with earlier | isNow
        · exact Or.inr (paced.spaced (paces.due made rfl) date earlier)
        · exact Or.inl (List.mem_singleton.mp isNow)

theorem paced_of_session {start : Consumer} {deeds : List Deed}
    (session : Session start deeds consumer) (least : start.minIdle = millis) :
    ∃ passes, Paced start millis passes deeds consumer := by
  induction session with
  | none => exact ⟨[], paced_start start millis⟩
  | next earlier deed course before =>
      obtain ⟨passes, paced⟩ := before
      obtain ⟨pass, next⟩ := paced.step course least
      exact ⟨passes ++ [pass], next⟩

end Consumer

end Scribe.Stream
