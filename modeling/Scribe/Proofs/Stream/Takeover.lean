import Scribe.Proofs.Stream.Lending
import Scribe.Proofs.Stream.Replay

/-!
# What becomes of entries that are taken over

Of the entries that a claim makes its own a consumer learns only by the answer: it does not go
back to what lies with itself, and claims nothing but what lies with others.  So a pass that fails
loses exactly the entries that it has taken over.  It loses none if they cannot be listed or the
claim is refused.  But if the claim is carried out, and its answer does not arrive or shows one
entry that cannot be read, then all that were claimed together are never returned.
-/

namespace Scribe.Stream

open Scribe.Broker (Message Error)
open Scribe.Dialogue

/-! ## Entries that are lost -/

/-- A consumer of a group and where the entries are. -/
structure Holding where
  consumer : Consumer
  places : Places

/-- A call of a consumer with a server that lends entries, other than to subscribe again. -/
structure Holding.Goes (before : Holding) (deed : Consumer.Deed) (after : Holding) : Prop where
  admitted : ∀ topics, deed.call ≠ .subscribe topics
  obeys : before.consumer.Obeys deed after.consumer
  served : Run (Attends before.consumer.on before.consumer.name) before.places deed.exchanges
    after.places

/-- An entry is lost to a consumer if from then on no call returns it, while it lies with this
consumer until it is acknowledged. -/
def Holding.Loses (holding : Holding) (id : String) : Prop :=
  ∀ deeds final, Run Holding.Goes holding deeds final →
    Reserved holding.consumer.name id final.places ∧
      ∀ deed ∈ deeds, ∀ message, deed.returned = some message → message.id ≠ id

namespace Consumer

/-- An entry that lies with a consumer which neither has its message nor asks for it. -/
structure Stranded (name : String) (millis : Nat) (id : String) (holding : Holding) : Prop where
  named : holding.consumer.name = name
  least : holding.consumer.minIdle = millis
  ended : holding.consumer.cursor = none
  reserved : Reserved name id holding.places
  absent : ∀ message ∈ holding.consumer.claimed, message.id ≠ id

section Stranded

variable {name id : String} {millis : Nat} {before after : Holding} {deed : Deed}

/-- A claim is part of a pass, with the list that it goes by. -/
theorem claim_of_surround {pass : Option Pass} {front back : List Exchange} {exchange : Exchange}
    {group : Group} {owner : String} {idle : Int} {ids : List String}
    (reading : ∀ exchange ∈ front ++ back, exchange.question.isReading = true)
    (member : exchange ∈ surround name millis pass front back)
    (claim : exchange.question = .command (.claim group owner idle ids)) :
    ∃ made : Pass, ids = overdue name millis made.unfinished ∧
      ⟨.command (.pending made.on batch), made.listed⟩ ∈ surround name millis pass front back := by
  have outside (there : exchange ∈ front ++ back) : False := by
    have read := reading exchange there
    rw [claim] at read
    cases read
  rw [surround] at member
  rcases List.mem_append.mp member with early | late
  · rcases List.mem_append.mp early with before | within
    · exact (outside (List.mem_append_left _ before)).elim
    · cases pass with
      | none => cases within
      | some made =>
          refine ⟨made, ?_, by simp [surround, Pass.exchanges]⟩
          rcases List.mem_append.mp within with listing | claimed
          · rcases List.mem_pair.mp listing with rfl | rfl <;> cases claim
          · rw [Pass.claim] at claimed
            split at claimed
            · cases claimed
            · obtain rfl := List.mem_singleton.mp claimed
              cases claim
              rfl
  · exact (outside (List.mem_append_right _ late)).elim

/-- A poll that does not go back to what lies with the consumer brings nothing of it. -/
theorem apart_of_reserved {on : Group} {pass : Option Pass} {front back : List Exchange}
    {places later : Places} (reserved : Reserved name id places)
    (run : Run (Attends on name) places (surround name millis pass front back) later)
    (reading : ∀ exchange ∈ front ++ back, exchange.question.isReading = true)
    (new : ∀ exchange ∈ surround name millis pass front back,
      exchange.question.isReplay = false) :
    ∀ found ∈ entriesOf (surround name millis pass front back), found.2.id ≠ id := by
  intro found member
  obtain ⟨exchange, inside, brought⟩ := List.mem_flatMap.mp member
  obtain ⟨between, next, lies, serves⟩ := reserved.serves run inside
  refine serves.received_ne lies (new exchange inside) ?_ found brought
  intro idle ids asked
  obtain ⟨made, rfl, listing⟩ := claim_of_surround reading inside asked
  obtain ⟨earlier, following, still, listed⟩ := reserved.serves run listing
  exact listed.not_overdue still

/-- The messages that a poll returns or keeps waiting are those that waited and those of the
entries that it was brought. -/
theorem Hands.absent {consumer after : Consumer} {exchanges : List Exchange}
    {messages : List Message} (hands : Hands consumer exchanges messages after)
    (absent : ∀ message ∈ consumer.claimed, message.id ≠ id)
    (apart : ∀ found ∈ entriesOf exchanges, found.2.id ≠ id) :
    ∀ message ∈ messages ++ after.claimed, message.id ≠ id := by
  rw [hands.queue]
  intro message member
  rcases List.mem_append.mp member with waiting | brought
  · exact absent message waiting
  · obtain ⟨k, stream, entry, found, rfl⟩ := mem_numbered_iff.mp brought
    rw [entry.message_id]
    exact apart (stream, entry) (List.mem_of_getElem? found)

/-- Whatever a consumer is told to do, an entry that is stranded remains so and is not
returned. -/
theorem Stranded.step (stranded : Stranded name millis id before) (goes : before.Goes deed after) :
    Stranded name millis id after ∧ ∀ message, deed.returned = some message → message.id ≠ id := by
  have served := goes.served
  rw [stranded.named] at served
  have reserved := stranded.reserved.run served
  have onward := goes.obeys.onward stranded.ended
  have ended := onward.cursor.trans stranded.ended
  have idle (calm : deed.call.isIdle = true) :
      Stranded name millis id after ∧
        ∀ message, deed.returned = some message → message.id ≠ id := by
    obtain ⟨silent, ⟨paused, same⟩, _⟩ := goes.obeys.idle calm
    refine ⟨⟨?_, ?_, ended, reserved, ?_⟩, ?_⟩
    · rw [same]
      exact stranded.named
    · rw [same]
      exact stranded.least
    · rw [same]
      exact stranded.absent
    · intro message told
      cases silent.symm.trans told
  cases called : deed.call with
  | subscribe topics => exact absurd called (goes.admitted topics)
  | pause => exact idle (by rw [called]; rfl)
  | resume => exact idle (by rw [called]; rfl)
  | commit acknowledged => exact idle (by rw [called]; rfl)
  | poll timeout =>
      have course := goes.obeys
      rw [Obeys, called] at course
      obtain ⟨result, told, polls⟩ := polls_of_perform course
      obtain ⟨pass, front, back, split, sweeps⟩ := polls.sweeps stranded.least
      have hands := polls.hands
      have new := onward.new
      rw [split, stranded.named] at hands new served
      have apart := apart_of_reserved stranded.reserved served sweeps.reading new
      have absent := hands.absent stranded.absent apart
      refine ⟨⟨sweeps.alike.name.trans stranded.named, sweeps.alike.minIdle.trans stranded.least,
        ended, reserved, fun message member => absent message (List.mem_append_right _ member)⟩, ?_⟩
      intro message returned
      apply absent message
      rw [← told, returned]
      exact List.mem_append_left _ List.mem_cons_self

/-- An entry that is stranded is lost. -/
theorem Stranded.loses (stranded : Stranded name millis id before) : before.Loses id := by
  intro deeds final run
  have kept : Stranded name millis id final ∧
      ∀ deed ∈ deeds, ∀ message, deed.returned = some message → message.id ≠ id := by
    induction run with
    | none => exact ⟨stranded, nofun⟩
    | next earlier deed goes before =>
        obtain ⟨still, unreturned⟩ := before
        obtain ⟨onward, silent⟩ := still.step goes
        exact ⟨onward,
          List.forall_mem_append.mpr ⟨unreturned, List.forall_mem_singleton.mpr silent⟩⟩
  rw [stranded.named]
  exact ⟨kept.1.reserved, kept.2⟩

end Stranded

/-! ## What a pass loses -/

/-- What becomes of the entries that a pass has taken over, in a poll that starts with entries in
some places. -/
structure Fate (consumer : Consumer) (millis : Nat) (made : Pass) (taken : List Taken)
    (places : Places) (result : Except Error (Option Message)) (after : Holding) : Prop where
  /-- They were claimed, and lie with the consumer now. -/
  claimed : ∀ entry ∈ taken, entry.id ∈ overdue consumer.name millis made.unfinished ∧
    after.places entry.id = .lent consumer.name
  /-- Besides them only new entries have come to it. -/
  only : ∀ id, after.places id = .lent consumer.name →
    places id = .lent consumer.name ∨ places id = .unread ∨ ∃ entry ∈ taken, entry.id = id
  /-- If there are any, the pass fails exactly if the answer does not arrive or one of them cannot
  be read. -/
  faulty : taken ≠ [] → (made.Failed consumer.name millis ↔
    (∃ fault, made.handed = .error fault) ∨ ∃ entry ∈ taken, entry.isLegible = false)
  /-- If it does not fail, the message of each one that is still there is returned or waits. -/
  kept : ¬ made.Failed consumer.name millis → ∀ entry ∈ taken, ∀ fields,
    entry.fields = some fields → ∃ shown offset, fields.read? = some shown ∧
      Entry.message ⟨entry.id, shown⟩ consumer.stream offset ∈
        result.toOption.join.toList ++ after.consumer.claimed
  /-- If it fails, each of them is lost. -/
  lost : made.Failed consumer.name millis → ∀ entry ∈ taken,
    (∀ message, result.toOption.join = some message → message.id ≠ entry.id) ∧
      after.Loses entry.id

section Fate

variable {consumer : Consumer} {millis : Nat} {made : Pass} {taken : List Taken}
  {places later : Places} {timeout : Time.Span} {front back exchanges : List Exchange}
  {result : Except Error (Option Message)} {after : Consumer}

/-- Each entry that a poll is brought has its message returned or waits. -/
theorem Hands.delivers {messages : List Message} {stream : String} {entry : Entry}
    (hands : Hands consumer exchanges messages after)
    (brought : (stream, entry) ∈ entriesOf exchanges) :
    ∃ offset, entry.message stream offset ∈ messages ++ after.claimed := by
  obtain ⟨k, found⟩ := List.getElem?_of_mem brought
  refine ⟨consumer.nextOffset + k, ?_⟩
  rw [hands.queue]
  exact List.mem_append_right _ (mem_numbered_iff.mpr ⟨k, stream, entry, found, rfl⟩)

/-- In a poll whose pass fails, and from then on, nothing that lies with the consumer is
returned. -/
theorem Unharmed.lost {now : Time.Span} {id : String} {between : Places}
    (unharmed : Unharmed consumer timeout now back result after) (alike : Alike consumer after)
    (least : consumer.minIdle = millis)
    (reading : ∀ exchange ∈ back, exchange.question.isReading = true)
    (lies : Reserved consumer.name id between)
    (run : Run (Attends consumer.on consumer.name) between back later) :
    (∀ message, result.toOption.join = some message → message.id ≠ id) ∧
      Holding.Loses ⟨after, later⟩ id := by
  have onward := unharmed.reads.onward
  have none : ∀ message ∈ consumer.claimed, message.id ≠ id := by
    rw [unharmed.waiting]
    exact nofun
  have apart : ∀ found ∈ entriesOf (surround consumer.name millis .none [] back),
      found.2.id ≠ id :=
    apart_of_reserved lies run reading onward.new
  constructor
  · intro message returned
    apply (unharmed.reads.hands unharmed.waiting).absent none apart message
    rw [returned]
    exact List.mem_append_left _ List.mem_cons_self
  · refine Stranded.loses ⟨alike.name, alike.minIdle.trans least, onward.cursor, lies.run run, ?_⟩
    rw [unharmed.kept]
    exact none

theorem Sweeps.fate (sweeps : Sweeps consumer timeout millis (some made) front back result after)
    (hands : Hands consumer (surround consumer.name millis (some made) front back)
      result.toOption.join.toList after)
    (least : consumer.minIdle = millis)
    (run : Run (Attends consumer.on consumer.name) places
      (surround consumer.name millis (some made) front back) later) :
    ∃ taken, Fate consumer millis made taken places result ⟨after, later⟩ := by
  obtain ⟨second, toSecond, behind⟩ := run.of_append rfl
  obtain ⟨first, before, passing⟩ := toSecond.of_append rfl
  obtain ⟨taken, takes⟩ := Pass.takesOver passing
  obtain ⟨early, late⟩ := List.forall_mem_append.mp sweeps.reading
  have come := moves_of_run before (fun exchange member =>
    Question.isTransfer_of_isReading (early exchange member)) (taken.map Taken.id)
  have stay := moves_of_run behind (fun exchange member =>
    Question.isTransfer_of_isReading (late exchange member)) (taken.map Taken.id)
  refine ⟨taken, ⟨?_, ?_, takes.faulty, ?_, ?_⟩⟩
  · intro entry member
    obtain ⟨due, lies⟩ := takes.claimed entry member
    exact ⟨due, stay.kept entry.id lies⟩
  · intro id own
    refine ((come.trans (takes.moves.trans stay)).come id own).imp_right (Or.imp_right ?_)
    exact fun named => List.mem_map.mp named
  · intro succeeds entry member fields shown
    obtain ⟨read, told, brought⟩ := takes.brought succeeds member shown
    rw [(sweeps.due made rfl).1] at brought
    have arrived : (consumer.stream, ⟨entry.id, read⟩) ∈
        entriesOf (surround consumer.name millis (some made) front back) := by
      rw [surround, entriesOf_append, entriesOf_append]
      exact List.mem_append_left _ (List.mem_append_right _ brought)
    obtain ⟨offset, delivered⟩ := hands.delivers arrived
    exact ⟨read, offset, told, delivered⟩
  · intro failed entry member
    exact (sweeps.unharmed made rfl failed).lost sweeps.alike least late
      (Or.inl (takes.claimed entry member).2) behind

end Fate

/-- What can be relied on when a consumer takes over what others have abandoned. -/
structure ClaimsAbandoned (start : Consumer) (millis : Nat) (deeds : List Deed)
    (consumer : Consumer) : Prop where
  /-- Each call makes one pass or none, and in a pass exactly the overdue entries of the list are
  claimed, in its order.  Two passes are at least twice the idle time apart, also if they fail. -/
  paced : ∃ passes : List (Option Pass),
    List.Forall₂ (Makes start.name millis) passes (deeds.map Deed.exchanges) ∧
    (dates start passes).Pairwise (Apart (Time.Span.ofMillis (2 * millis)))
  /-- If the pass of the next poll fails, the poll goes on to what is new, and those entries are
  lost that the pass has taken over. -/
  swept : ∀ timeout exchanges result after,
    Course (consumer.poll timeout) exchanges (result, after) →
    ∃ pass front back, exchanges = surround consumer.name millis pass front back ∧
      Sweeps consumer timeout millis pass front back result after ∧
      ∀ made, pass = some made → ∀ places later,
        Run (Attends consumer.on consumer.name) places exchanges later →
        ∃ taken, Fate consumer millis made taken places result ⟨after, later⟩

/-- A consumer claims what others have abandoned and nothing else, whatever it is told to do and
whatever it is answered.  A pass that fails does not keep the poll from what is new, but it loses
the entries that it has taken over. -/
theorem abandoned_taken_over (millis : Nat) (small : millis ≤ Text.maxSigned64)
    (start : Consumer) (idle : start.claimIdle = Time.Span.ofMillis millis) (deeds : List Deed)
    (consumer : Consumer) (session : Session start deeds consumer) :
    ClaimsAbandoned start millis deeds consumer := by
  have least := minIdle_of_millis idle small
  obtain ⟨passes, paced⟩ := paced_of_session session least
  constructor
  · have interval : start.claimInterval = Time.Span.ofMillis (2 * millis) := by
      rw [claimInterval, idle]
      exact congrArg Time.Span.mk (Nat.mul_assoc 2 millis _).symm
    exact ⟨passes, paced.makes, interval ▸ paced.apart⟩
  · intro timeout exchanges result after course
    have same := paced.alike.minIdle.trans least
    have polls := course_poll course
    have hands := polls.hands
    obtain ⟨pass, front, back, rfl, sweeps⟩ := polls.sweeps same
    refine ⟨pass, front, back, rfl, sweeps, ?_⟩
    rintro made rfl places later run
    exact sweeps.fate hands same run

/-- Surroundings at some time: a server that lists unfinished entries, hands over those that are
claimed and gives out new ones, or fails to, and has nothing to take up again. -/
def claimScene (now : Time.Span) (listed handed new : Read Reply) :
    (question : Question) → question.Answer
  | .connect _ => .ok ()
  | .command (.readGroup _ _ _ behind) => if behind = ">" then new else .ok .nil
  | .command (.pending _ _) => listed
  | .command (.claim _ _ _ _) => handed
  | .command _ => .ok (.status "OK")
  | .clock => now
  | .drawJitter => .none
  | .sleep _ => ()

/-- The command of an exchange. -/
def commandOf (exchange : Exchange) : Option Command :=
  match exchange.question with
  | .command command => some command
  | _ => none

/-- Entries lie as a table says, and all others are unread. -/
def placed (table : List (String × Place)) : Places :=
  fun id => (table.lookup id).getD .unread

/-- The first pass fails, and yet a new entry is read.  Shortly before twice the idle time has
passed there is no pass.  In the next one two of four entries are overdue, the others being idle
for too short a time or the consumer's own; they are taken over, one of them was trimmed, and the
other one is returned. -/
theorem abandoned_taken_over_retried :
    let fresh : Consumer :=
      { group := "stt", name := "worker", claimIdle := Time.Span.ofMillis 1000 }
    let on : Group := ⟨"jobs", "stt"⟩
    let reading (behind : String) : Command :=
      .readGroup on "worker" (if behind = ">" then some 5 else none) behind
    let places : Places := placed [("1-0", .lent "other"), ("2-0", .lent "other"),
      ("3-0", .lent "worker"), ("4-0", .lent "third"), ("9-0", .lent "worker")]
    ∃ deeds consumer exchanges message after, Session fresh deeds consumer ∧
      deeds.map (fun deed => deed.exchanges.filterMap commandOf) =
        [[.createGroup on], [reading "0", .pending on 100, reading ">"], [reading ">"]] ∧
      deeds.map (fun deed => deed.returned.map Message.id) = [none, some "9-0", some "9-0"] ∧
      Course (consumer.poll (Time.Span.ofMillis 5)) exchanges (.ok (some message), after) ∧
      message.id = "1-0" ∧
      exchanges.filterMap commandOf =
        [.pending on 100, .claim on "worker" 1000 ["1-0", "4-0"]] ∧
      Run (Attends on "worker") places exchanges (places.lend "worker" ["1-0", "4-0"]) ∧
      ClaimsAbandoned fresh 1000 deeds consumer := by
  intro fresh on reading places
  let polling : Call := .poll (Time.Span.ofMillis 5)
  let unfinished : List Unfinished := [⟨"1-0", "other", 1000, 1⟩, ⟨"2-0", "other", 999, 1⟩,
    ⟨"3-0", "worker", 5000, 1⟩, ⟨"4-0", "third", 2000, 1⟩]
  let taken : List Taken := [⟨"1-0", some []⟩, ⟨"4-0", none⟩]
  let scene (now : Nat) (listed : Read Reply) :=
    claimScene (Time.Span.ofMillis now) listed (.ok (handing taken))
      (.ok (streamReply "jobs" [entryReply "9-0" []]))
  let subscribed : Consumer := { fresh with stream := "jobs" }
  let failed : Consumer :=
    { subscribed with cursor := none, nextOffset := 1, lastClaim := some (Time.Span.ofMillis 5000) }
  let consumer : Consumer := { failed with nextOffset := 2 }
  have first : fresh.Obeys ⟨.subscribe ["jobs"], _, none⟩ subscribed :=
    course_of_asked (scene 0 (.error .misshapen)) [.command (.createGroup on)] rfl rfl
  have second : subscribed.Obeys ⟨polling, _, some (Entry.message ⟨"9-0", []⟩ "jobs" 0)⟩ failed :=
    course_of_asked (scene 5000 (.error .misshapen)) [.command (reading "0"), .clock,
      .command (.pending on 100), .command (reading ">")] (by decide +kernel) (by decide +kernel)
  have third : failed.Obeys ⟨polling, _, some (Entry.message ⟨"9-0", []⟩ "jobs" 1)⟩ consumer :=
    course_of_asked (scene 6999 (.ok (listing unfinished))) [.clock, .command (reading ">")]
      (by decide +kernel) (by decide +kernel)
  have last : Course (consumer.poll (Time.Span.ofMillis 5)) _
      (.ok (some (Entry.message ⟨"1-0", []⟩ "jobs" 2)),
        { consumer with nextOffset := 3, lastClaim := some (Time.Span.ofMillis 7000) }) :=
    course_of_asked (scene 7000 (.ok (listing unfinished))) [.clock, .command (.pending on 100),
      .command (.claim on "worker" 1000 ["1-0", "4-0"])] (by decide +kernel) (by decide +kernel)
  have session := ((Run.none.next _ first).next _ second).next _ third
  have looked : Attends on "worker" places ⟨.clock, Time.Span.ofMillis 7000⟩ places :=
    (Serves.elsewhere rfl).attends
  have listed : Serves on "worker" places
      ⟨.command (.pending on 100), .ok (listing unfinished)⟩ places :=
    serves_listing (by decide)
  have handed : Serves on "worker" places
      ⟨.command (.claim on "worker" 1000 ["1-0", "4-0"]), .ok (handing taken)⟩
      (places.lend "worker" ["1-0", "4-0"]) := by
    refine .handed taken (List.forall_mem_cons.mpr ⟨?_, List.forall_mem_singleton.mpr ?_⟩)
      (Or.inl rfl)
    · exact ⟨by decide, "other", rfl⟩
    · exact ⟨by decide, "third", rfl⟩
  have served := ((Run.none.next _ looked).next _ listed.attends).next _ handed.attends
  exact ⟨_, consumer, _, _, _, session, rfl, by decide +kernel, last, by decide +kernel, rfl,
    served, abandoned_taken_over 1000 (by decide) fresh rfl _ consumer session⟩

/-- One entry that cannot be read is enough to lose another one.  Both lie with a consumer that is
gone, and a server that answers everything hands them over together.  The answer cannot be read,
so the pass fails; the entries lie with this consumer now, and in its next pass it finds them
listed as its own and leaves them.  Whatever it is told to do, it never returns the entry that can
be read. -/
theorem batch_lost :
    let fresh : Consumer := { group := "stt", name := "worker" }
    let on : Group := ⟨"jobs", "stt"⟩
    let whole : Taken := ⟨"4-0", some [(Text.utf8 "job", Text.utf8 "a")]⟩
    let broken : Taken := ⟨"5-0", some garbled.fields⟩
    let places : Places := placed [("4-0", .lent "other"), ("5-0", .lent "other")]
    let listed (owner : String) : Reply :=
      listing [⟨"4-0", owner, 600000, 1⟩, ⟨"5-0", owner, 600000, 1⟩]
    let handed : Reply := handing [whole, broken]
    ∃ consumer deed after next later, Course (fresh.subscribe ["jobs"])
        [⟨.command (.createGroup on), .ok (.status "OK")⟩] (.ok (), consumer) ∧
      Holding.Goes ⟨consumer, places⟩ deed after ∧ deed.returned = none ∧
      deed.exchanges =
        [⟨.command (.readGroup on "worker" none "0"), .ok .nil⟩, ⟨.clock, Time.Span.ofMillis 0⟩,
          ⟨.command (.pending on 100), .ok (listed "other")⟩,
          ⟨.command (.claim on "worker" 300000 ["4-0", "5-0"]), .ok handed⟩,
          ⟨.command (.readGroup on "worker" (some 5) ">"), .ok .nil⟩] ∧
      Pass.Failed "worker" 300000 ⟨Time.Span.ofMillis 0, on, .ok (listed "other"), .ok handed⟩ ∧
      after.Goes next later ∧
      next.exchanges =
        [⟨.clock, Time.Span.ofMillis 600000⟩,
          ⟨.command (.pending on 100), .ok (listed "worker")⟩,
          ⟨.command (.readGroup on "worker" (some 5) ">"), .ok .nil⟩] ∧
      whole.isLegible = true ∧ after.places "4-0" = .lent "worker" ∧ after.Loses "4-0" := by
  intro fresh on whole broken places listed handed
  let polling : Call := .poll (Time.Span.ofMillis 5)
  let scene (now : Nat) (owner : String) :=
    claimScene (Time.Span.ofMillis now) (.ok (listed owner)) (.ok handed) (.ok .nil)
  let consumer : Consumer := { fresh with stream := "jobs" }
  let failed (now : Nat) : Consumer :=
    { consumer with cursor := none, lastClaim := some (Time.Span.ofMillis now) }
  let later : Places := places.lend "worker" ["4-0", "5-0"]
  let old : Question := .command (.readGroup on "worker" none "0")
  let list : Question := .command (.pending on 100)
  let claim : Question := .command (.claim on "worker" 300000 ["4-0", "5-0"])
  let new : Question := .command (.readGroup on "worker" (some 5) ">")
  have first : consumer.Obeys ⟨polling, _, none⟩ (failed 0) :=
    course_of_asked (scene 0 "other") [old, .clock, list, claim, new] (by decide +kernel)
      (by decide +kernel)
  have second : (failed 0).Obeys ⟨polling, _, none⟩ (failed 600000) :=
    course_of_asked (scene 600000 "worker") [.clock, list, new] (by decide +kernel)
      (by decide +kernel)
  have hands : Attends on "worker" places ⟨claim, .ok handed⟩ later := by
    refine (Serves.handed [whole, broken] ?_ (Or.inl rfl)).attends
    have lies : ∀ entry ∈ [whole, broken], entry.id ∈ ["4-0", "5-0"] ∧
        places entry.id = .lent "other" := by decide
    exact fun entry member => ⟨(lies entry member).1, "other", (lies entry member).2⟩
  have reads {places : Places} : Attends on "worker" places ⟨new, .ok .nil⟩ places :=
    (Serves.nothing rfl).attends
  have looks {places : Places} (now : Nat) :
      Attends on "worker" places ⟨.clock, Time.Span.ofMillis now⟩ places :=
    (Serves.elsewhere rfl).attends
  have lists (places : Places) (owner : String) (first : places "4-0" = .lent owner)
      (second : places "5-0" = .lent owner) :
      Attends on "worker" places ⟨list, .ok (listed owner)⟩ places :=
    (serves_listing
      (List.forall_mem_cons.mpr ⟨first, List.forall_mem_singleton.mpr second⟩)).attends
  have replayed : Attends on "worker" places ⟨old, .ok .nil⟩ places :=
    (Serves.elsewhere rfl).attends
  have foreign := lists places "other" rfl rfl
  have own := lists later "worker" rfl rfl
  have before := ((Run.none.next _ replayed).next _ (looks 0)).next _ foreign
  have served := (before.next _ hands).next _ reads
  have onward := ((Run.none.next _ (looks 600000)).next _ own).next _ reads
  have goes : Holding.Goes ⟨consumer, places⟩ _ ⟨failed 0, later⟩ :=
    ⟨by rintro _ ⟨⟩, first, served⟩
  have more : Holding.Goes ⟨failed 0, later⟩ _ ⟨failed 600000, later⟩ :=
    ⟨by rintro _ ⟨⟩, second, onward⟩
  have fails : Pass.Failed "worker" 300000
      ⟨Time.Span.ofMillis 0, on, .ok (listed "other"), .ok handed⟩ := by
    have due : overdue "worker" 300000
        (Pass.unfinished ⟨Time.Span.ofMillis 0, on, .ok (listed "other"), .ok handed⟩) ≠ [] := by
      rw [Pass.unfinished_of_listing rfl]
      decide
    exact (Pass.failed_iff due).mpr
      (claimedOf_handing_error_iff.mpr ⟨broken, by simp, by decide +kernel⟩)
  have stranded : Stranded "worker" 300000 "4-0" ⟨failed 0, later⟩ :=
    ⟨rfl, by decide, rfl, Or.inl rfl, nofun⟩
  exact ⟨consumer, _, _, _, _, .ask _ _ _ (.done _), goes, rfl, rfl, fails, more, rfl,
    by decide +kernel, rfl, stranded.loses⟩

end Consumer

end Scribe.Stream
