import Scribe.Proofs.Stream.Session

/-!
# Messages come in the order of their entries

A consumer counts entries as they reach it, while some of them still have to wait.  A poll
takes a message from the front of those that wait, and asks for more only when none does.  So
over all calls the messages that were returned, followed by those that wait, are the entries
that were received, numbered from zero.
-/

namespace Scribe.Stream

open Scribe.Broker (Message Error)
open Scribe.Dialogue

/-! ## Entries and their numbers -/

/-- The entries that an exchange brings, each with its stream: the first one of a read, and
all that are taken over. -/
def received : Exchange → List (String × Entry)
  | ⟨.command (.readGroup _ _ _ _), answer⟩ =>
      match answer.bind Consumer.streamsOf with
      | .ok streams => (Consumer.firstEntry? streams).toList
      | .error _ => []
  | ⟨.command (.claim on _ _ _), answer⟩ =>
      match answer.bind Consumer.claimedOf with
      | .ok entries => entries.map fun entry => (on.stream, entry)
      | .error _ => []
  | _ => []

/-- The entries that some exchanges bring, in order. -/
def entriesOf (exchanges : List Exchange) : List (String × Entry) :=
  exchanges.flatMap received

theorem entriesOf_append (early late : List Exchange) :
    entriesOf (early ++ late) = entriesOf early ++ entriesOf late :=
  List.flatMap_append

/-- The messages of entries, numbered one after another. -/
def numbered (first : Nat) (entries : List (String × Entry)) : List Message :=
  (entries.zipIdx first).map fun entry => entry.1.2.message entry.1.1 entry.2

theorem numbered_append (first : Nat) (early late : List (String × Entry)) :
    numbered first (early ++ late) =
      numbered first early ++ numbered (first + early.length) late := by
  rw [numbered, List.zipIdx_append, List.map_append]
  rfl

theorem getElem?_numbered (first : Nat) (entries : List (String × Entry)) (k : Nat) :
    (numbered first entries)[k]? =
      entries[k]?.map fun entry => entry.2.message entry.1 (first + k) := by
  rw [numbered, List.getElem?_map, List.getElem?_zipIdx, Option.map_map]
  rfl

theorem mem_numbered_iff {first : Nat} {entries : List (String × Entry)} {message : Message} :
    message ∈ numbered first entries ↔ ∃ (k : Nat) (stream : String) (entry : Entry),
      entries[k]? = some (stream, entry) ∧ entry.message stream (first + k) = message := by
  rw [List.mem_iff_getElem?]
  simp only [getElem?_numbered, Option.map_eq_some_iff, Prod.exists]

theorem Entry.foldl_place (fields : Fields) (message : Message) :
    (fields.foldl place message).offset = message.offset ∧
      (fields.foldl place message).partition = message.partition ∧
      (fields.foldl place message).id = message.id := by
  induction fields generalizing message with
  | nil => exact ⟨rfl, rfl, rfl⟩
  | cons field rest ih =>
      obtain ⟨offset, partition, id⟩ := ih (place message field)
      have kept : (place message field).offset = message.offset ∧
          (place message field).partition = message.partition ∧
          (place message field).id = message.id := by
        simp only [place]
        split
        · exact ⟨rfl, rfl, rfl⟩
        · split
          · exact ⟨rfl, rfl, rfl⟩
          · exact ⟨rfl, rfl, rfl⟩
      exact ⟨offset.trans kept.1, partition.trans kept.2.1, id.trans kept.2.2⟩

theorem Entry.message_offset (entry : Entry) (stream : String) (offset : Nat) :
    (entry.message stream offset).offset = offset :=
  (foldl_place entry.fields _).1

theorem Entry.message_partition (entry : Entry) (stream : String) (offset : Nat) :
    (entry.message stream offset).partition = 0 :=
  (foldl_place entry.fields _).2.1

theorem Entry.message_id (entry : Entry) (stream : String) (offset : Nat) :
    (entry.message stream offset).id = entry.id :=
  (foldl_place entry.fields _).2.2

/-- A message has the number of its entry as its offset. -/
theorem place_of_numbered {entries : List (String × Entry)} {k : Nat} {message : Message}
    (found : (numbered 0 entries)[k]? = some message) :
    message.offset = k ∧ message.partition = 0 := by
  rw [getElem?_numbered, Option.map_eq_some_iff, Nat.zero_add] at found
  obtain ⟨⟨stream, entry⟩, _, rfl⟩ := found
  exact ⟨entry.message_offset stream k, entry.message_partition stream k⟩

namespace Consumer

theorem receiveAll_eq (stream : String) (entries : List Entry) (consumer : Consumer) :
    receiveAll stream entries consumer =
      (numbered consumer.nextOffset (entries.map fun entry => (stream, entry)),
        { consumer with nextOffset := consumer.nextOffset + entries.length }) := by
  induction entries generalizing consumer with
  | nil => rfl
  | cons entry rest ih =>
      simp only [receiveAll, receive, ih, List.length_cons, Nat.add_assoc, Nat.add_comm 1]
      rfl

/-! ## What a poll does to messages -/

/-- Exchanges of a consumer and the messages it returns meanwhile: what is returned and what
still waits are what waited before and what was received. -/
structure Hands (consumer : Consumer) (exchanges : List Exchange) (messages : List Message)
    (after : Consumer) : Prop where
  queue : messages ++ after.claimed =
    consumer.claimed ++ numbered consumer.nextOffset (entriesOf exchanges)
  count : after.nextOffset = consumer.nextOffset + (entriesOf exchanges).length
  paused : after.paused = consumer.paused

theorem Hands.trans {consumer between after : Consumer} {early late : List Exchange}
    {first second : List Message} (hands : Hands consumer early first between)
    (more : Hands between late second after) :
    Hands consumer (early ++ late) (first ++ second) after := by
  constructor
  · rw [List.append_assoc, more.queue, ← List.append_assoc, hands.queue, hands.count,
      List.append_assoc, entriesOf_append, numbered_append]
  · rw [more.count, hands.count, entriesOf_append, List.length_append, Nat.add_assoc]
  · exact more.paused.trans hands.paused

/-- The message in front is handed out. -/
theorem hands_front {consumer : Consumer} {message : Message} {rest : List Message}
    (waiting : consumer.claimed = message :: rest) :
    Hands consumer [] [message] { consumer with claimed := rest } := by
  constructor
  · rw [waiting]
    exact (List.append_nil _).symm
  · rfl
  · rfl

/-- Exchanges that bring no entry and leave the consumer alone hand out nothing. -/
theorem hands_nothing {consumer : Consumer} {exchanges : List Exchange}
    (none : entriesOf exchanges = []) : Hands consumer exchanges [] consumer := by
  constructor
  · rw [none]
    exact (List.append_nil _).symm
  · rw [none]
    rfl
  · rfl

/-! ### Reading one entry -/

theorem Reads.hands {consumer after : Consumer} {behind : String} {wait : Option Nat}
    {exchanges : List Exchange} {result : Except Error (Option Message)}
    (reads : Reads consumer behind wait exchanges (result, after))
    (empty : consumer.claimed = []) :
    Hands consumer exchanges result.toOption.join.toList after := by
  cases reads with
  | entry answer streams stream entry read first =>
      have arrived : entriesOf
          [⟨.command (.readGroup consumer.on consumer.name wait behind), answer⟩] =
            [(stream, entry)] := by
        simp [entriesOf, received, read, first]
      constructor
      · rw [arrived, empty]
        exact congrArg _ empty
      · rw [arrived]
        rfl
      · rfl
  | nothing answer streams read none =>
      apply hands_nothing
      simp [entriesOf, received, read, none]
  | groupless answer made fault _ read gone silent =>
      rw [silent]
      apply hands_nothing
      simp [entriesOf, received, read]
  | failed answer fault read other =>
      apply hands_nothing
      simp [entriesOf, received, read]

/-! ### Taking entries over -/

/-- The exchanges of a pass and the messages it comes to: each entry has its number, and what
waits is left alone. -/
structure Takes (consumer : Consumer) (exchanges : List Exchange) (messages : List Message)
    (after : Consumer) : Prop where
  messages : messages = numbered consumer.nextOffset (entriesOf exchanges)
  count : after.nextOffset = consumer.nextOffset + (entriesOf exchanges).length
  claimed : after.claimed = consumer.claimed
  paused : after.paused = consumer.paused

theorem takes_nothing {consumer : Consumer} {exchanges : List Exchange}
    (none : entriesOf exchanges = []) : Takes consumer exchanges [] consumer := by
  constructor
  · rw [none]
    rfl
  · rw [none]
    rfl
  · rfl
  · rfl

theorem Claims.takes {consumer after : Consumer} {exchanges : List Exchange}
    {result : Except Fault (List Message)}
    (claims : Claims consumer exchanges (result, after)) :
    Takes consumer exchanges (result.toOption.getD []) after := by
  cases claims with
  | groupless answer fault listed gone => exact takes_nothing rfl
  | unlisted answer fault listed other => exact takes_nothing rfl
  | nothing answer unfinished listed none => exact takes_nothing rfl
  | refused answer reply unfinished fault listed some claimed =>
      apply takes_nothing
      simp [entriesOf, received, claimed]
  | taken answer reply unfinished entries listed some claimed =>
      have arrived : entriesOf
          [⟨.command (.pending consumer.on batch), answer⟩,
            ⟨.command (.claim consumer.on consumer.name consumer.minIdle
              (consumer.abandoned unfinished)), reply⟩] =
            entries.map fun entry => (consumer.stream, entry) := by
        simp [entriesOf, received, claimed, on]
      constructor
      · rw [arrived, receiveAll_eq]
        rfl
      · rw [arrived, receiveAll_eq, List.length_map]
      · rw [receiveAll_eq]
      · rw [receiveAll_eq]

/-- What was taken over goes behind what waits. -/
theorem Takes.hands {consumer after : Consumer} {exchanges : List Exchange}
    {messages : List Message} (takes : Takes consumer exchanges messages after) :
    Hands consumer exchanges [] { after with claimed := after.claimed ++ messages } := by
  constructor
  · rw [List.nil_append, takes.claimed, takes.messages]
  · exact takes.count
  · exact takes.paused

theorem ClaimsWhenDue.hands {consumer after : Consumer} {exchanges : List Exchange}
    (claims : ClaimsWhenDue consumer exchanges after) : Hands consumer exchanges [] after := by
  cases claims with
  | early now due => exact hands_nothing rfl
  | added now due messages between claims =>
      have hands := claims.takes.hands
      exact ⟨hands.queue, hands.count, hands.paused⟩
  | failed now due fault between claims =>
      have hands : Hands _ _ [] { after with claimed := after.claimed ++ [] } :=
        claims.takes.hands
      rw [List.append_nil] at hands
      exact ⟨hands.queue, hands.count, hands.paused⟩

/-! ### The whole poll -/

theorem ReadsNew.hands {consumer after : Consumer} {timeout : Time.Span}
    {exchanges : List Exchange} {result : Except Error (Option Message)}
    (new : ReadsNew consumer timeout exchanges (result, after)) :
    Hands consumer exchanges result.toOption.join.toList after := by
  cases new with
  | taken between message rest claims waiting =>
      have whole := claims.hands.trans (hands_front waiting)
      rw [List.append_nil] at whole
      exact whole
  | read between claims none reads => exact claims.hands.trans (reads.hands none)

theorem Polls.hands {consumer after : Consumer} {timeout : Time.Span}
    {exchanges : List Exchange} {result : Except Error (Option Message)}
    (polls : Polls consumer timeout exchanges (result, after)) :
    Hands consumer exchanges result.toOption.join.toList after := by
  cases polls with
  | paused stopped => exact hands_nothing rfl
  | waiting active message rest first => exact hands_front first
  | replayed active empty cursor place message between reads =>
      have hands := reads.hands empty
      exact ⟨hands.queue, hands.count, hands.paused⟩
  | failed active empty cursor place error between reads => exact reads.hands empty
  | ended active empty cursor place between reads new =>
      have hands := reads.hands empty
      have without : Hands consumer _ [] { between with cursor := none } :=
        ⟨hands.queue, hands.count, hands.paused⟩
      exact without.trans new.hands
  | new active empty place new => exact new.hands

/-! ## The order of messages -/

/-- The entries that some calls brought, in order. -/
def brought (deeds : List Deed) : List (String × Entry) :=
  deeds.flatMap fun deed => entriesOf deed.exchanges

theorem brought_append (earlier : List Deed) (deed : Deed) :
    brought (earlier ++ [deed]) = brought earlier ++ entriesOf deed.exchanges := by
  rw [brought, List.flatMap_append, List.flatMap_singleton, ← brought]

theorem hands_of_subscribe {consumer after : Consumer} {topics : List String}
    {exchanges : List Exchange} {result : Except Error Unit}
    (course : Course (consumer.subscribe topics) exchanges (result, after)) :
    Hands consumer exchanges [] after := by
  rcases course_subscribe course with ⟨stream, answer, rfl, rfl⟩ | ⟨rfl, rfl⟩
  · constructor
    · exact (List.append_nil _).symm
    · rfl
    · rfl
  · exact hands_nothing rfl

/-- The tally of some calls: the entries they brought are numbered from zero, in the order in
which their messages were returned or still wait. -/
structure Tallied (deeds : List Deed) (consumer : Consumer) : Prop where
  queue : returned deeds ++ consumer.claimed = numbered 0 (brought deeds)
  count : consumer.nextOffset = (brought deeds).length
  paused : consumer.paused = isPaused deeds

theorem tallied_fresh (group name : String) (claimIdle : Time.Span) :
    Tallied [] { group, name, claimIdle } :=
  ⟨rfl, rfl, rfl⟩

theorem Tallied.hands {earlier : List Deed} {consumer after : Consumer} {deed : Deed}
    (tallied : Tallied earlier consumer)
    (hands : Hands consumer deed.exchanges deed.returned.toList after)
    (same : deed.call.pausing (isPaused earlier) = isPaused earlier) :
    Tallied (earlier ++ [deed]) after := by
  constructor
  · rw [returned_append, List.append_assoc, hands.queue, ← List.append_assoc, tallied.queue,
      tallied.count, brought_append, numbered_append, Nat.zero_add]
  · rw [hands.count, tallied.count, brought_append, List.length_append]
  · rw [hands.paused, tallied.paused, isPaused_append, same]

/-- A call that asks nothing and returns nothing leaves what waits alone. -/
theorem Tallied.turned {earlier : List Deed} {consumer : Consumer} {call : Call}
    (tallied : Tallied earlier consumer) :
    Tallied (earlier ++ [⟨call, [], none⟩])
      { consumer with paused := call.pausing consumer.paused } := by
  constructor
  · rw [returned_append, brought_append]
    exact (congrArg (· ++ consumer.claimed) (List.append_nil _)).trans
      (tallied.queue.trans (congrArg _ (List.append_nil _).symm))
  · rw [brought_append]
    exact tallied.count.trans (congrArg _ (List.append_nil _).symm)
  · rw [isPaused_append, tallied.paused]

theorem Tallied.step {earlier : List Deed} {consumer after : Consumer} {deed : Deed}
    (tallied : Tallied earlier consumer) (course : Obeys consumer deed after) :
    Tallied (earlier ++ [deed]) after := by
  obtain ⟨call, exchanges, message⟩ := deed
  cases call with
  | subscribe topics =>
      obtain ⟨early, late, ⟨result, between⟩, rfl, subscribing, final⟩ :=
        course_bind_iff.mp course
      obtain ⟨rfl, same⟩ := course_pure_iff.mp final
      cases same
      apply tallied.hands _ rfl
      rw [List.append_nil]
      exact hands_of_subscribe subscribing
  | poll timeout =>
      obtain ⟨result, rfl, polls⟩ := polls_of_perform course
      exact tallied.hands polls.hands rfl
  | pause =>
      obtain ⟨rfl, same⟩ := course_pure_iff.mp course
      cases same
      exact tallied.turned
  | resume =>
      obtain ⟨rfl, same⟩ := course_pure_iff.mp course
      cases same
      exact tallied.turned
  | commit acknowledged =>
      obtain ⟨early, late, result, rfl, committing, final⟩ := course_bind_iff.mp course
      obtain ⟨rfl, same⟩ := course_pure_iff.mp final
      cases same
      apply tallied.hands _ rfl
      rw [List.append_nil]
      obtain ⟨answer, rfl⟩ := course_commit committing
      exact hands_nothing rfl

theorem tallied_of_session {group name : String} {claimIdle : Time.Span} {deeds : List Deed}
    {consumer : Consumer} (session : Session { group, name, claimIdle } deeds consumer) :
    Tallied deeds consumer :=
  session.invariant (tallied_fresh group name claimIdle) Tallied.step

/-- What can be relied on in the messages of a consumer. -/
structure KeepsOrder (deeds : List Deed) (consumer : Consumer) : Prop where
  /-- Each entry that was brought was returned once or waits, in the order of arrival. -/
  queue : returned deeds ++ consumer.claimed = numbered 0 (brought deeds)
  /-- Offsets count the messages that are returned. -/
  offsets : ∀ (k : Nat) (message : Message), (returned deeds)[k]? = some message →
    message.offset = k ∧ message.partition = 0
  /-- A message that waits is returned before anything else is asked for. -/
  waiting : ∀ early deed late timeout message, deeds = early ++ deed :: late →
    deed.call = .poll timeout → isPaused early = false →
    (numbered 0 (brought early))[(returned early).length]? = some message →
    deed.returned = some message ∧ deed.exchanges = []
  /-- A poll of a paused consumer only takes its time. -/
  paused : ∀ early deed late timeout, deeds = early ++ deed :: late →
    deed.call = .poll timeout → isPaused early = true →
    deed.returned = none ∧ deed.exchanges = [⟨.sleep timeout, ()⟩]

/-- Whatever a fresh consumer is told to do and whatever it is answered, its messages come in
the order of their entries, with offsets that count them. -/
theorem messages_in_order (group name : String) (claimIdle : Time.Span) (deeds : List Deed)
    (consumer : Consumer) (session : Session { group, name, claimIdle } deeds consumer) :
    KeepsOrder deeds consumer := by
  have queue := (tallied_of_session session).queue
  refine ⟨queue, ?_, ?_, ?_⟩
  · intro k message found
    have inside : k < (returned deeds).length := (List.getElem?_eq_some_iff.mp found).1
    have counted : (numbered 0 (brought deeds))[k]? = some message := by
      rw [← queue, List.getElem?_append_left inside]
      exact found
    exact place_of_numbered counted
  · intro early deed late timeout message place called active front
    obtain ⟨middle, after, before, course⟩ := session.split place
    have tallied := tallied_of_session before
    rw [Obeys, called] at course
    obtain ⟨result, told, polls⟩ := polls_of_perform course
    -- The first message that waits stands in the queue right behind those that were returned.
    rw [← tallied.queue, List.getElem?_append_right (Nat.le_refl _), Nat.sub_self,
      ← List.head?_eq_getElem?, List.head?_eq_some_iff] at front
    obtain ⟨rest, waiting⟩ := front
    obtain ⟨exchanges, same⟩ := polls.of_waiting (tallied.paused.trans active) waiting
    cases same
    exact ⟨told, exchanges⟩
  · intro early deed late timeout place called stopped
    obtain ⟨middle, after, before, course⟩ := session.split place
    rw [Obeys, called] at course
    obtain ⟨result, told, polls⟩ := polls_of_perform course
    have paused := (tallied_of_session before).paused.trans stopped
    obtain ⟨exchanges, same⟩ := polls.of_paused paused
    cases same
    exact ⟨told, exchanges⟩

/-- Of two entries that are taken over together the second waits for the next poll, and it
waits on while the consumer is paused. -/
theorem messages_in_order_claimed :
    let fresh : Consumer := { group := "stt", name := "worker", claimIdle := ⟨300000000000⟩ }
    ∃ deeds consumer, Session fresh deeds consumer ∧
      deeds.map (fun deed => deed.returned.map Message.id) =
        [none, some "1-0", none, none, none, some "2-0"] ∧
      (returned deeds).map Message.offset = [0, 1] ∧ KeepsOrder deeds consumer := by
  intro fresh
  let listed (id : String) : Reply :=
    .list [.status id, .status "other", .integer 600000, .integer 1]
  let entry (id : String) : Reply := .list [.status id, .list [.status "job", .nil]]
  let reply : (question : Question) → question.Answer
    | .connect _ => .ok ()
    | .command (.readGroup _ _ _ _) => .ok .nil
    | .command (.pending _ _) => .ok (.list [listed "1-0", listed "2-0"])
    | .command (.claim _ _ _ _) => .ok (.list [entry "1-0", .nil, entry "2-0"])
    | .command _ => .ok (.status "OK")
    | .clock => ⟨0⟩
    | .drawJitter => .none
    | .sleep _ => ()
  let outcome (consumer : Consumer) (call : Call) := (consumer.perform call).follow reply
  let deed (consumer : Consumer) (call : Call) : Deed :=
    ⟨call, (outcome consumer call).1, (outcome consumer call).2.1⟩
  have next : ∀ {start consumer : Consumer} {earlier : List Deed} (call : Call),
      Session start earlier consumer →
      Session start (earlier ++ [deed consumer call]) (outcome consumer call).2.2 := by
    intro start consumer earlier call session
    exact session.next (deed consumer call) (course_follow reply (consumer.perform call))
  have begun : Session fresh [] fresh := .none
  have subscribed := next (.subscribe ["jobs"]) begun
  have first := next (.poll ⟨1⟩) subscribed
  have paused := next (.poll ⟨1⟩) (next .pause first)
  have session := next (.poll ⟨1⟩) (next .resume paused)
  refine ⟨_, _, session, ?_, ?_, messages_in_order "stt" "worker" _ _ _ session⟩
  · decide +kernel
  · decide +kernel

end Consumer

end Scribe.Stream
