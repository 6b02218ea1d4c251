import Scribe.Proofs.Stream.Recovery

/-!
# How far a consumer takes up its entries again

A consumer that comes back asks for one entry after another, and goes on from an entry only when
it has read it.  An entry with a name that is not text cannot be read.  So with each poll it comes
one entry further as far as the first such entry, and there it stays: every poll asks for the same
entry again and reports the same fault, and what lies behind, and all that is new, is never asked
for.  The replay comes to its end, with one poll more than there are entries, if all of them can
be read, and only then.
-/

namespace Scribe.Stream

open Scribe.Broker (Message Error)
open Scribe.Dialogue

/-! ## Entries that can be read -/

namespace Stored

/-- Whether all names of an entry are text. -/
def isLegible (stored : Stored) : Bool :=
  stored.fields.read?.isSome

/-- The reply that shows an entry. -/
def shape (stored : Stored) (stream : String) : Reply :=
  streamReply stream [entryReply stored.id.text stored.fields.words]

theorem streamsOf_shape (stored : Stored) (stream : String) :
    Consumer.streamsOf (stored.shape stream) =
      legible (stored.fields.read?.map fun fields => [(stream, [⟨stored.id.text, fields⟩])]) := by
  rw [shape, streamsOf_streamReply, List.mapM_cons, List.mapM_nil, ofReply_entryReply]
  cases stored.fields.read? <;> rfl

end Stored

/-- How many of some entries stand before the first one that cannot be read. -/
def readable : List Stored → Nat
  | [] => 0
  | stored :: others => if stored.isLegible then readable others + 1 else 0

theorem readable_append {done : List Stored}
    (legible : ∀ stored ∈ done, stored.isLegible = true) (rest : List Stored) :
    readable (done ++ rest) = done.length + readable rest := by
  induction done with
  | nil => exact (Nat.zero_add _).symm
  | cons stored others ih =>
      obtain ⟨first, later⟩ := List.forall_mem_cons.mp legible
      rw [List.cons_append, readable, if_pos first, ih later, List.length_cons]
      omega

theorem readable_of_legible {entries : List Stored}
    (legible : ∀ stored ∈ entries, stored.isLegible = true) :
    readable entries = entries.length := by
  have all := readable_append legible []
  rwa [List.append_nil] at all

/-! ## A server that answers everything -/

/-- What such a server answers: of the entries that a consumer has not acknowledged it shows the
first one behind an id, or that there is none.  All other answers are free. -/
inductive Answers (on : Group) (name : String) (pending : List Stored) : Exchange → Prop
  | shown {wait : Option Nat} {behind : String} {cursor : EntryId} {stored : Stored}
      (place : EntryId.read? behind = some cursor)
      (first : firstBehind cursor pending = some stored) :
      Answers on name pending
        ⟨.command (.readGroup on name wait behind), .ok (stored.shape on.stream)⟩
  | ended {wait : Option Nat} {behind : String} {cursor : EntryId} {reply : Reply}
      (place : EntryId.read? behind = some cursor)
      (last : firstBehind cursor pending = none) (shows : Shows on.stream none reply) :
      Answers on name pending ⟨.command (.readGroup on name wait behind), .ok reply⟩
  | elsewhere {exchange : Exchange}
      (other : ∀ wait behind cursor, EntryId.read? behind = some cursor →
        exchange.question ≠ .command (.readGroup on name wait behind)) :
      Answers on name pending exchange

/-- A call of a consumer with a server that answers everything. -/
structure Recovery.Served (before : Recovery) (deed : Consumer.Deed) (after : Recovery) :
    Prop where
  goes : before.Goes deed after
  answered : ∀ exchange ∈ deed.exchanges,
    Answers before.consumer.on before.consumer.name before.pending exchange

section Answers

variable {on : Group} {name behind : String} {wait : Option Nat} {cursor : EntryId}
  {pending : List Stored} {answer : Read Reply}

theorem Answers.of_first {stored : Stored}
    (answers : Answers on name pending ⟨.command (.readGroup on name wait behind), answer⟩)
    (place : EntryId.read? behind = some cursor)
    (first : firstBehind cursor pending = some stored) : answer = .ok (stored.shape on.stream) := by
  cases answers with
  | shown same found =>
      cases place.symm.trans same
      cases first.symm.trans found
      rfl
  | ended same last =>
      cases place.symm.trans same
      cases first.symm.trans last
  | elsewhere other => exact absurd rfl (other wait behind cursor place)

theorem Answers.of_last
    (answers : Answers on name pending ⟨.command (.readGroup on name wait behind), answer⟩)
    (place : EntryId.read? behind = some cursor) (last : firstBehind cursor pending = none) :
    ∃ streams, answer.bind Consumer.streamsOf = .ok streams ∧
      Consumer.firstEntry? streams = none := by
  cases answers with
  | shown same found =>
      cases place.symm.trans same
      cases last.symm.trans found
  | ended _ _ shows =>
      rcases shows.streamsOf with ⟨streams, read, _, empty⟩ | ⟨_, _, _, _, _, some, _⟩ | illegible
      · exact ⟨streams, read, empty⟩
      · cases some
      · cases shows with
        | empty => rw [streamsOf_streamReply] at illegible; cases illegible
        | nil => cases illegible
  | elsewhere other => exact absurd rfl (other wait behind cursor place)

end Answers

namespace Consumer

variable {consumer after : Consumer} {exchanges : List Exchange}

/-! ## A poll before an entry -/

/-- What a poll comes to that asks for an entry: its message, or the fault of an answer that has
not the shape of one. -/
inductive Visits (on : Group) (name : String) (offset : Nat) (stored : Stored) :
    List Exchange → Except Error (Option Message) → Prop
  | delivered (behind : String) (old : behind ≠ ">") (fields : Fields)
      (read : stored.fields.read? = some fields) :
      Visits on name offset stored
        [⟨.command (.readGroup on name none behind), .ok (stored.shape on.stream)⟩]
        (.ok (some (Entry.message ⟨stored.id.text, fields⟩ on.stream offset)))
  | reported (behind : String) (old : behind ≠ ">") (unread : stored.fields.read? = none) :
      Visits on name offset stored
        [⟨.command (.readGroup on name none behind), .ok (stored.shape on.stream)⟩]
        (.error Fault.misshapen.toBroker)

theorem Visits.quiet {on : Group} {name : String} {offset : Nat} {stored : Stored}
    {result : Except Error (Option Message)}
    (visits : Visits on name offset stored exchanges result) :
    ∀ exchange ∈ exchanges, exchange.question.goesBeyond = false ∧ ¬ Exhausts exchange := by
  have told := stored.streamsOf_shape on.stream
  cases visits with
  | delivered behind old fields read =>
      rw [read] at told
      rintro exchange (_ | ⟨_, ⟨⟩⟩)
      refine ⟨beq_false_of_ne old, ?_⟩
      rintro ⟨_, streams, same, none⟩
      cases told.symm.trans same
      cases none
  | reported behind old unread =>
      rw [unread] at told
      rintro exchange (_ | ⟨_, ⟨⟩⟩)
      refine ⟨beq_false_of_ne old, ?_⟩
      rintro ⟨_, streams, same, _⟩
      cases told.symm.trans same

/-- The consumer after a poll that has taken up a message again, or none. -/
def past (consumer : Consumer) : Option Message → Consumer
  | some message =>
      { consumer with nextOffset := consumer.nextOffset + 1, cursor := some message.id }
  | none => consumer

/-- The outcome of a read goes by what can be read of the answer. -/
structure Heeds (consumer : Consumer) (answer : Read Reply) (rest : List Exchange)
    (outcome : Outcome (Option Message)) : Prop where
  found : ∀ streams stream entry, answer.bind streamsOf = .ok streams →
    firstEntry? streams = some (stream, entry) → rest = [] ∧
      outcome = (.ok (some (consumer.receive stream entry).1), (consumer.receive stream entry).2)
  vain : ∀ streams, answer.bind streamsOf = .ok streams → firstEntry? streams = none →
    rest = [] ∧ outcome = (.ok none, consumer)
  faulty : ∀ fault, answer.bind streamsOf = .error fault → fault.mentions "NOGROUP" = false →
    rest = [] ∧ outcome = (.error fault.toBroker, consumer)

theorem Reads.heeds {behind : String} {wait : Option Nat} {outcome : Outcome (Option Message)}
    (reads : Reads consumer behind wait exchanges outcome) :
    ∃ answer rest, exchanges =
        ⟨.command (.readGroup consumer.on consumer.name wait behind), answer⟩ :: rest ∧
      Heeds consumer answer rest outcome := by
  cases reads with
  | entry answer streams stream entry read first =>
      refine ⟨answer, [], rfl, ?_, ?_, ?_⟩
      · intro others elsewhere other same found
        cases read.symm.trans same
        cases first.symm.trans found
        exact ⟨rfl, rfl⟩
      · intro others same empty
        cases read.symm.trans same
        cases first.symm.trans empty
      · intro fault same
        cases read.symm.trans same
  | nothing answer streams read empty =>
      refine ⟨answer, [], rfl, ?_, ?_, ?_⟩
      · intro others elsewhere other same found
        cases read.symm.trans same
        cases empty.symm.trans found
      · exact fun _ _ _ => ⟨rfl, rfl⟩
      · intro fault same
        cases read.symm.trans same
  | groupless answer made fault result read gone =>
      refine ⟨answer, _, rfl, ?_, ?_, ?_⟩
      · intro others elsewhere other same
        cases read.symm.trans same
      · intro others same
        cases read.symm.trans same
      · intro other same kept
        cases read.symm.trans same
        cases gone.symm.trans kept
  | failed answer fault read =>
      refine ⟨answer, [], rfl, ?_, ?_, ?_⟩
      · intro others elsewhere other same
        cases read.symm.trans same
      · intro others same
        cases read.symm.trans same
      · intro other same _
        cases read.symm.trans same
        exact ⟨rfl, rfl⟩

/-- A read that is answered with an entry comes to its message or to a fault. -/
theorem Heeds.shape {stored : Stored} {rest : List Exchange} {outcome : Outcome (Option Message)}
    (heeds : Heeds consumer (.ok (stored.shape consumer.stream)) rest outcome) :
    rest = [] ∧
      ((∃ fields message, stored.fields.read? = some fields ∧
          message = Entry.message ⟨stored.id.text, fields⟩ consumer.stream consumer.nextOffset ∧
          outcome = (.ok (some message),
            { consumer with nextOffset := consumer.nextOffset + 1 })) ∨
        stored.fields.read? = none ∧ outcome = (.error Fault.misshapen.toBroker, consumer)) := by
  have told := stored.streamsOf_shape consumer.stream
  cases read : stored.fields.read? with
  | none =>
      rw [read] at told
      obtain ⟨rfl, same⟩ := heeds.faulty .misshapen told (by decide +kernel)
      exact ⟨rfl, Or.inr ⟨rfl, same⟩⟩
  | some fields =>
      rw [read] at told
      obtain ⟨rfl, same⟩ := heeds.found _ consumer.stream ⟨stored.id.text, fields⟩ told rfl
      exact ⟨rfl, Or.inl ⟨fields, _, rfl, rfl, same⟩⟩

section Polled

variable {timeout : Time.Span} {outcome : Outcome (Option Message)} {behind : String}
  {cursor : EntryId} {pending : List Stored}

/-- A poll before an entry asks for it and for nothing else. -/
theorem Polls.visits {stored : Stored} (polls : Polls consumer timeout exchanges outcome)
    (answered : ∀ exchange ∈ exchanges, Answers consumer.on consumer.name pending exchange)
    (active : consumer.paused = false) (empty : consumer.claimed = [])
    (place : consumer.cursor = some behind) (stands : EntryId.read? behind = some cursor)
    (first : firstBehind cursor pending = some stored) :
    Visits consumer.on consumer.name consumer.nextOffset stored exchanges outcome.1 ∧
      outcome.2 = consumer.past outcome.1.toOption.join := by
  have old := not_new_of_read? stands
  cases polls with
  | paused stopped => cases active.symm.trans stopped
  | waiting _ message others waits => cases empty.symm.trans waits
  | new _ _ none => cases place.symm.trans none
  | replayed _ _ _ same message after reads =>
      cases place.symm.trans same
      obtain ⟨answer, rest, rfl, heeds⟩ := reads.heeds
      obtain rfl := (answered _ List.mem_cons_self).of_first stands first
      obtain ⟨rfl, ⟨fields, message, read, rfl, same⟩ | ⟨_, same⟩⟩ := heeds.shape
      · cases same
        exact ⟨.delivered behind old fields read, rfl⟩
      · cases same
  | failed _ _ _ same error after reads =>
      cases place.symm.trans same
      obtain ⟨answer, rest, rfl, heeds⟩ := reads.heeds
      obtain rfl := (answered _ List.mem_cons_self).of_first stands first
      obtain ⟨rfl, ⟨fields, message, _, _, same⟩ | ⟨unread, same⟩⟩ := heeds.shape
      · cases same
      · cases same
        exact ⟨.reported behind old unread, rfl⟩
  | ended _ _ _ same after reads =>
      cases place.symm.trans same
      obtain ⟨answer, rest, rfl, heeds⟩ := reads.heeds
      obtain rfl := (answered _ (List.mem_append_left _ List.mem_cons_self)).of_first stands first
      obtain ⟨rfl, ⟨fields, message, _, _, same⟩ | ⟨_, same⟩⟩ := heeds.shape
      · cases same
      · cases same

/-- A poll behind the last entry ends the replay. -/
theorem Polls.ends (polls : Polls consumer timeout exchanges outcome)
    (answered : ∀ exchange ∈ exchanges, Answers consumer.on consumer.name pending exchange)
    (active : consumer.paused = false) (empty : consumer.claimed = [])
    (place : consumer.cursor = some behind) (stands : EntryId.read? behind = some cursor)
    (last : firstBehind cursor pending = none) : outcome.2.cursor = none := by
  cases polls with
  | paused stopped => cases active.symm.trans stopped
  | waiting _ message others waits => cases empty.symm.trans waits
  | new _ _ none => exact absurd (place.symm.trans none) nofun
  | replayed _ _ _ same message after reads =>
      cases place.symm.trans same
      obtain ⟨answer, rest, rfl, heeds⟩ := reads.heeds
      obtain ⟨streams, read, none⟩ := (answered _ List.mem_cons_self).of_last stands last
      cases (heeds.vain streams read none).2
  | failed _ _ _ same error after reads =>
      cases place.symm.trans same
      obtain ⟨answer, rest, rfl, heeds⟩ := reads.heeds
      obtain ⟨streams, read, none⟩ := (answered _ List.mem_cons_self).of_last stands last
      cases (heeds.vain streams read none).2
  | ended _ _ _ _ after reads new => exact new.onward.cursor

end Polled

/-! ## Polls of a consumer that is not paused -/

/-- One for a poll, unless the consumer is paused. -/
def Call.attempts (paused : Bool) : Call → Nat
  | .poll _ => if paused then 0 else 1
  | _ => 0

/-- How many of some calls are polls of a consumer that is not paused, where it may be paused at
first. -/
def attemptsFrom (paused : Bool) : List Deed → Nat
  | [] => 0
  | deed :: later => deed.call.attempts paused + attemptsFrom (deed.call.pausing paused) later

/-- How many of some calls are polls of a consumer that is not paused. -/
def attempts (deeds : List Deed) : Nat :=
  attemptsFrom false deeds

theorem attemptsFrom_append (paused : Bool) (earlier : List Deed) (deed : Deed) :
    attemptsFrom paused (earlier ++ [deed]) = attemptsFrom paused earlier +
      deed.call.attempts (earlier.foldl (fun before deed => deed.call.pausing before) paused) := by
  induction earlier generalizing paused with
  | nil => exact (Nat.add_comm _ _)
  | cons first later ih =>
      rw [List.cons_append, attemptsFrom, ih, attemptsFrom, List.foldl_cons, Nat.add_assoc]

theorem attempts_append (earlier : List Deed) (deed : Deed) :
    attempts (earlier ++ [deed]) = attempts earlier + deed.call.attempts (isPaused earlier) :=
  attemptsFrom_append false earlier deed

/-! ## How far the polls lead -/

/-- There was a poll more than there are entries, and all of these can be read. -/
def Exhausted (initial : List Stored) (deeds : List Deed) : Prop :=
  initial.length < attempts deeds ∧ ∀ stored ∈ initial, stored.isLegible = true

/-- In the midst of its entries a consumer is done with as many of them as there were polls, but
with none from the first one on that cannot be read. -/
structure Midway (on : Group) (name : String) (initial : List Stored) (deeds : List Deed)
    (state : Recovery) (done rest : List Stored) : Prop where
  split : initial = done ++ rest
  replaying : Replaying on name done rest state
  legible : ∀ stored ∈ done, stored.isLegible = true
  reached : done.length = min (attempts deeds) (readable initial)
  lasting : ¬ Exhausted initial deeds
  quiet : ∀ deed ∈ deeds, Quiet deed

/-- A consumer is in the midst of its entries, or past them. -/
inductive Stage (on : Group) (name : String) (initial : List Stored) (deeds : List Deed)
    (state : Recovery) : Prop
  | midway (done rest : List Stored) (midway : Midway on name initial deeds state done rest)
  | beyond (exhausted : Exhausted initial deeds) (ended : state.consumer.cursor = none)

namespace Midway

variable {on : Group} {name : String} {initial done rest others : List Stored}
  {deeds : List Deed} {before after : Recovery} {deed : Deed} {stored : Stored}

theorem readable_eq (midway : Midway on name initial deeds before done rest) :
    readable initial = done.length + readable rest := by
  rw [midway.split]
  exact readable_append midway.legible rest

/-- What comes of a call that asks for no entry. -/
theorem still (midway : Midway on name initial deeds before done rest)
    (replaying : Replaying on name done rest after) (quiet : Quiet deed)
    (same : attempts (deeds ++ [deed]) = attempts deeds) :
    Midway on name initial (deeds ++ [deed]) after done rest where
  split := midway.split
  replaying := replaying
  legible := midway.legible
  reached := by rw [same, midway.reached]
  lasting := by
    rw [Exhausted, same]
    exact midway.lasting
  quiet := List.forall_mem_append.mpr ⟨midway.quiet, List.forall_mem_singleton.mpr quiet⟩

/-- What comes of a poll that is given an entry which can be read. -/
theorem delivered (midway : Midway on name initial deeds before done (stored :: others))
    (replaying : Replaying on name (done ++ [stored]) others after) (quiet : Quiet deed)
    (legible : stored.isLegible = true) (more : attempts (deeds ++ [deed]) = attempts deeds + 1) :
    Midway on name initial (deeds ++ [deed]) after (done ++ [stored]) others := by
  have further := midway.readable_eq
  have reached := midway.reached
  rw [readable, if_pos legible] at further
  refine ⟨?_, replaying, ?_, ?_, ?_, ?_⟩
  · rw [midway.split, List.append_assoc, List.singleton_append]
  · exact List.forall_mem_append.mpr ⟨midway.legible, List.forall_mem_singleton.mpr legible⟩
  · rw [more, List.length_append, List.length_singleton]
    omega
  · rintro ⟨beyond, _⟩
    rw [more, midway.split, List.length_append, List.length_cons] at beyond
    omega
  · exact List.forall_mem_append.mpr ⟨midway.quiet, List.forall_mem_singleton.mpr quiet⟩

/-- What comes of a poll that is given an entry which cannot be read. -/
theorem reported (midway : Midway on name initial deeds before done (stored :: others))
    (replaying : Replaying on name done (stored :: others) after) (quiet : Quiet deed)
    (illegible : stored.isLegible = false)
    (more : attempts (deeds ++ [deed]) = attempts deeds + 1) :
    Midway on name initial (deeds ++ [deed]) after done (stored :: others) := by
  have further := midway.readable_eq
  have reached := midway.reached
  rw [readable, if_neg (Bool.eq_false_iff.mp illegible)] at further
  refine ⟨midway.split, replaying, midway.legible, ?_, ?_, ?_⟩
  · rw [more]
    omega
  · rintro ⟨_, legible⟩
    have inside : stored ∈ initial := by
      rw [midway.split]
      exact List.mem_append_right _ List.mem_cons_self
    cases illegible.symm.trans (legible stored inside)
  · exact List.forall_mem_append.mpr ⟨midway.quiet, List.forall_mem_singleton.mpr quiet⟩

/-- Behind the last entry, one poll more is one more than there are entries. -/
theorem exhausted (midway : Midway on name initial deeds before done [])
    (more : attempts (deeds ++ [deed]) = attempts deeds + 1) :
    Exhausted initial (deeds ++ [deed]) := by
  have reached := midway.reached
  have split := midway.split
  rw [List.append_nil] at split
  subst split
  refine ⟨?_, midway.legible⟩
  rw [more]
  omega

/-- A poll of a consumer that is not paused visits the first entry that remains. -/
theorem visits (midway : Midway on name initial deeds before done (stored :: others))
    {timeout : Time.Span} {exchanges : List Exchange} {outcome : Outcome (Option Message)}
    (polls : Polls before.consumer timeout exchanges outcome)
    (answered : ∀ exchange ∈ exchanges, Answers on name before.pending exchange)
    (active : before.consumer.paused = false) :
    Visits on name done.length stored exchanges outcome.1 ∧
      outcome.2 = before.consumer.past outcome.1.toOption.join := by
  have replaying := midway.replaying
  obtain ⟨text, cursor, place, stands, passed, ahead⟩ := replaying.cursor
  obtain ⟨left, pending, inside⟩ := replaying.pending
  have first : firstBehind cursor before.pending = some stored := by
    rw [pending]
    exact firstBehind_append (fun other member => passed other (inside other member)) ahead
  rw [← replaying.group, ← replaying.name] at answered ⊢
  rw [← replaying.count]
  exact polls.visits answered active replaying.empty place stands first

/-- A poll of a consumer that is not paused, where no entry remains, ends the replay. -/
theorem ends (midway : Midway on name initial deeds before done [])
    {timeout : Time.Span} {exchanges : List Exchange} {outcome : Outcome (Option Message)}
    (polls : Polls before.consumer timeout exchanges outcome)
    (answered : ∀ exchange ∈ exchanges, Answers on name before.pending exchange)
    (active : before.consumer.paused = false) : outcome.2.cursor = none := by
  have replaying := midway.replaying
  obtain ⟨text, cursor, place, stands, passed, _⟩ := replaying.cursor
  obtain ⟨left, pending, inside⟩ := replaying.pending
  have last : firstBehind cursor before.pending = none := by
    rw [pending]
    exact firstBehind_append (fun other member => passed other (inside other member)) nofun
  rw [← replaying.group, ← replaying.name] at answered
  exact polls.ends answered active replaying.empty place stands last

end Midway

section Step

variable {on : Group} {name : String} {initial done rest : List Stored} {deeds : List Deed}
  {before after : Recovery} {deed : Deed}

/-- A poll of a consumer that is not paused takes up the next entry, or reports it, or ends the
replay. -/
theorem Midway.polled (midway : Midway on name initial deeds before done rest)
    (sorted : initial.Pairwise fun one other => one.id < other.id)
    (served : before.Served deed after) {timeout : Time.Span} (called : deed.call = .poll timeout)
    (active : before.consumer.paused = false)
    (more : attempts (deeds ++ [deed]) = attempts deeds + 1) :
    Stage on name initial (deeds ++ [deed]) after := by
  have goes := served.goes
  have replaying := midway.replaying
  have course := goes.obeys
  rw [Obeys, called] at course
  obtain ⟨result, told, polls⟩ := polls_of_perform course
  have answered := served.answered
  rw [replaying.group, replaying.name] at answered
  rw [midway.split] at sorted
  cases rest with
  | nil => exact .beyond (midway.exhausted more) (midway.ends polls answered active)
  | cons stored others =>
      obtain ⟨visits, same⟩ := midway.visits polls answered active
      have quiet : Quiet deed := visits.quiet
      generalize deed.exchanges = exchanges at visits
      cases visits with
      | delivered behind old fields read =>
          have legible : stored.isLegible = true := by
            rw [Stored.isLegible, read]
            rfl
          have shown : stored.Shown _ (some fields) := read ▸ Stored.Shown.whole
          have gives : stored.Gives on.stream before.consumer.nextOffset _ :=
            ⟨_, fields, shown, by rw [replaying.count]⟩
          have further := replaying.advanced sorted goes
            (fun exchange member => (quiet exchange member).1) same told gives
          exact .midway _ _ (midway.delivered further quiet legible more)
      | reported behind old unread =>
          have illegible : stored.isLegible = false := by
            rw [Stored.isLegible, unread]
            rfl
          have still := replaying.stays sorted goes told same quiet
          exact .midway _ _ (midway.reported still quiet illegible more)

/-- A call takes a consumer from one stage to the next. -/
theorem Midway.step (midway : Midway on name initial deeds before done rest)
    (sorted : initial.Pairwise fun one other => one.id < other.id)
    (tallied : Tallied deeds before.consumer) (served : before.Served deed after) :
    Stage on name initial (deeds ++ [deed]) after := by
  have goes := served.goes
  have counted := attempts_append deeds deed
  have placed := midway.split ▸ sorted
  have idle (calm : deed.call.isIdle = true) (none : deed.call.attempts (isPaused deeds) = 0) :
      Stage on name initial (deeds ++ [deed]) after := by
    obtain ⟨there, quiet⟩ := midway.replaying.idle placed goes calm
    exact .midway done rest (midway.still there quiet (by rw [counted, none, Nat.add_zero]))
  rw [← tallied.paused] at counted idle
  cases called : deed.call with
  | subscribe topics =>
      have admitted := goes.admitted
      rw [called] at admitted
      exact absurd admitted id
  | pause => exact idle (by rw [called]; rfl) (by rw [called]; rfl)
  | resume => exact idle (by rw [called]; rfl) (by rw [called]; rfl)
  | commit acknowledged => exact idle (by rw [called]; rfl) (by rw [called]; rfl)
  | poll timeout =>
      rw [called] at counted
      cases paused : before.consumer.paused with
      | true =>
          have course := goes.obeys
          rw [Obeys, called] at course
          obtain ⟨result, told, polls⟩ := polls_of_perform course
          obtain ⟨slept, outcome⟩ := polls.of_paused paused
          obtain ⟨rfl, same⟩ := Prod.mk.inj outcome
          have quiet : Quiet deed := by
            rw [Quiet, slept]
            simp [Question.goesBeyond, Exhausts]
          rw [paused] at counted
          exact .midway done rest
            (midway.still (midway.replaying.stays placed goes told same quiet) quiet counted)
      | false =>
          rw [paused] at counted
          exact midway.polled sorted served called paused counted

end Step

theorem Replaying.goesOn {on : Group} {name : String} {done rest : List Stored}
    {state : Recovery} (replaying : Replaying on name done rest state) :
    state.consumer.cursor ≠ none := by
  obtain ⟨text, _, place, _⟩ := replaying.cursor
  rw [place]
  exact nofun

/-- An entry in the place where the polls have led is the first one that remains. -/
theorem Stage.remaining {on : Group} {name : String} {initial : List Stored}
    {deeds : List Deed} {state : Recovery} {stored : Stored}
    (stage : Stage on name initial deeds state)
    (found : initial[min (attempts deeds) (readable initial)]? = some stored) :
    ∃ done others, Midway on name initial deeds state done (stored :: others) := by
  cases stage with
  | midway done rest midway =>
      rw [← midway.reached, midway.split, List.getElem?_append_right (Nat.le_refl _),
        Nat.sub_self, ← List.head?_eq_getElem?] at found
      obtain ⟨others, rfl⟩ := List.head?_eq_some_iff.mp found
      exact ⟨done, others, midway⟩
  | beyond exhausted =>
      rw [readable_of_legible exhausted.2, Nat.min_eq_right (Nat.le_of_lt exhausted.1),
        List.getElem?_eq_none (Nat.le_refl _)] at found
      cases found

/-! ## A server within reach -/

theorem answers_surroundings (on : Group) (name : String) (pending : List Stored)
    (question : Question) :
    Answers on name pending ⟨question, surroundings pending true question⟩ := by
  by_cases replay : ∃ wait behind cursor, EntryId.read? behind = some cursor ∧
      question = .command (.readGroup on name wait behind)
  · obtain ⟨wait, behind, cursor, place, rfl⟩ := replay
    simp only [surroundings, if_true, showing, place]
    cases first : firstBehind cursor pending with
    | none => exact .ended place first .empty
    | some stored => exact .shown place first
  · exact .elsewhere fun wait behind cursor place same => replay ⟨wait, behind, cursor, place, same⟩

/-- A call in surroundings that are within reach. -/
theorem served_leftBy {before : Recovery} (call : Call) (admitted : before.Admits call) :
    before.Served (deedIn true before call) (leftBy true before call before.pending) := by
  refine ⟨goes_leftBy true call admitted .all, ?_⟩
  rintro ⟨question, answer⟩ member
  rw [answer_of_mem_follow member]
  exact answers_surroundings _ _ _ _

/-- An entry whose only name is no text. -/
def garbled : Stored :=
  ⟨⟨5, 0⟩, [(⟨#[0xff]⟩, Text.utf8 "x")]⟩

/-! ## Over a whole run -/

/-- How far the calls of a run have led, counted by their polls. -/
structure Advanced (on : Group) (name : String) (initial : List Stored) (deeds : List Deed)
    (state : Recovery) : Prop where
  tallied : Tallied deeds state.consumer
  stage : Stage on name initial deeds state

theorem Advanced.step {on : Group} {name : String} {initial : List Stored}
    {earlier : List Deed} {before after : Recovery} {deed : Deed}
    (sorted : initial.Pairwise fun one other => one.id < other.id)
    (advanced : Advanced on name initial earlier before) (served : before.Served deed after) :
    Advanced on name initial (earlier ++ [deed]) after := by
  refine ⟨advanced.tallied.step served.goes.obeys, ?_⟩
  cases advanced.stage with
  | midway done rest midway => exact midway.step sorted advanced.tallied served
  | beyond exhausted ended =>
      refine .beyond ⟨?_, exhausted.2⟩ ((served.goes.obeys.onward ended).cursor.trans ended)
      rw [attempts_append]
      exact Nat.lt_add_right _ exhausted.1

/-- What a consumer that comes back makes of its entries, with a server that answers
everything. -/
structure Replayed (on : Group) (name : String) (initial : List Stored) (deeds : List Deed)
    (state : Recovery) : Prop where
  /-- The next poll visits the entry in the place of its number, or again the first one that
  cannot be read. -/
  visits : ∀ stored, initial[min (attempts deeds) (readable initial)]? = some stored →
    isPaused deeds = false → ∀ timeout exchanges result after,
    Course (state.consumer.poll timeout) exchanges (result, after) →
    (∀ exchange ∈ exchanges, Answers on name state.pending exchange) →
    Visits on name (min (attempts deeds) (readable initial)) stored exchanges result
  /-- The replay is over exactly if there was a poll more than there are entries and all of them
  can be read. -/
  ended : state.consumer.cursor = none ↔
    initial.length < attempts deeds ∧ ∀ stored ∈ initial, stored.isLegible = true
  /-- Until then neither new entries nor those of other consumers are asked for. -/
  confined : state.consumer.cursor ≠ none → ∀ deed ∈ deeds, ∀ exchange ∈ deed.exchanges,
    exchange.question.goesBeyond = false

/-- A consumer that comes back visits its entries one by one, a poll for each, up to the first
one that cannot be read, and goes on to anything else only if there is no such entry. -/
theorem replay_visits (group name stream : String) (claimIdle : Time.Span)
    (exchanges : List Exchange) (consumer : Consumer)
    (subscribed : Course (Consumer.subscribe { group, name, claimIdle } [stream]) exchanges
      (.ok (), consumer))
    (pending : List Stored) (sorted : pending.Pairwise fun one other => one.id < other.id)
    (valid : ∀ stored ∈ pending, (⟨0, 0⟩ : EntryId) < stored.id)
    (deeds : List Deed) (final : Recovery)
    (run : Run Recovery.Served { consumer, pending } deeds final) :
    Replayed ⟨stream, group⟩ name pending deeds final := by
  obtain ⟨tallied, replaying⟩ := replaying_subscribed subscribed valid
  have initially : Midway ⟨stream, group⟩ name pending [] { consumer, pending } [] pending :=
    { split := rfl
      replaying := replaying
      legible := nofun
      reached := (Nat.zero_min _).symm
      lasting := fun exhausted => absurd exhausted.1 nofun
      quiet := nofun }
  have advanced : Advanced ⟨stream, group⟩ name pending deeds final :=
    run.invariant ⟨tallied, .midway [] pending initially⟩ (Advanced.step sorted)
  refine ⟨?_, ?_, ?_⟩
  · intro stored found active timeout exchanges result after course answered
    obtain ⟨done, others, midway⟩ := advanced.stage.remaining found
    rw [← midway.reached]
    have awake := advanced.tallied.paused.trans active
    exact (midway.visits (course_poll course) answered awake).1
  · cases advanced.stage with
    | midway done rest midway =>
        exact ⟨fun ended => absurd ended midway.replaying.goesOn,
          fun exhausted => absurd exhausted midway.lasting⟩
    | beyond exhausted ended => exact ⟨fun _ => exhausted, fun _ => ended⟩
  · intro goesOn deed member exchange asked
    cases advanced.stage with
    | midway done rest midway => exact (midway.quiet deed member exchange asked).1
    | beyond exhausted ended => exact absurd ended goesOn

/-- The first of three entries is taken up, and the second one cannot be read.  However often the
consumer is polled, it visits the second one again. -/
theorem replay_visits_garbled :
    let fresh : Consumer := { group := "stt", name := "worker" }
    let pending : List Stored := [⟨⟨4, 0⟩, []⟩, garbled, ⟨⟨6, 0⟩, []⟩]
    ∃ consumer deeds final, Course (fresh.subscribe ["jobs"])
        [⟨.command (.createGroup ⟨"jobs", "stt"⟩), .ok (.status "OK")⟩] (.ok (), consumer) ∧
      Run Recovery.Served { consumer, pending } deeds final ∧
      deeds.map (fun deed => deed.returned.map Message.id) =
        [some "4-0", none, none, none, none, none, none] ∧
      attempts deeds = 4 ∧ Replayed ⟨"jobs", "stt"⟩ "worker" pending deeds final := by
  intro fresh pending
  let start : Recovery := { consumer := { fresh with stream := "jobs" }, pending }
  have subscribed : Course (fresh.subscribe ["jobs"])
      [⟨.command (.createGroup ⟨"jobs", "stt"⟩), .ok (.status "OK")⟩] (.ok (), start.consumer) :=
    .ask _ _ _ (.done _)
  have next {earlier : List Deed} {before : Recovery} (call : Call)
      (run : Run Recovery.Served start earlier before) (admitted : before.Admits call) :
      Run Recovery.Served start (earlier ++ [deedIn true before call])
        (leftBy true before call before.pending) :=
    run.next _ (served_leftBy call admitted)
  have second := next (.poll ⟨1⟩) (next (.poll ⟨1⟩) .none trivial) trivial
  have paused := next (.poll ⟨1⟩) (next .pause second trivial) trivial
  have run := next (.poll ⟨1⟩) (next (.poll ⟨1⟩) (next .resume paused trivial) trivial) trivial
  refine ⟨start.consumer, _, _, subscribed, run, ?_, ?_,
    replay_visits "stt" "worker" "jobs" _ _ _ subscribed pending (by decide) (by decide) _ _ run⟩
  · decide +kernel
  · decide +kernel

/-- Before an entry that cannot be read a consumer stays for good.  However often it is polled, it
visits this entry and reports it, and neither comes to the one behind it nor to an end. -/
theorem replay_endless :
    let fresh : Consumer := { group := "stt", name := "worker" }
    let pending : List Stored := [garbled, ⟨⟨6, 0⟩, []⟩]
    ∃ consumer, Course (fresh.subscribe ["jobs"])
        [⟨.command (.createGroup ⟨"jobs", "stt"⟩), .ok (.status "OK")⟩] (.ok (), consumer) ∧
      ∀ polls : Nat, ∃ deeds final, Run Recovery.Served { consumer, pending } deeds final ∧
        attempts deeds = polls ∧ final.consumer.cursor = some "0" ∧
        ∀ deed ∈ deeds, Visits ⟨"jobs", "stt"⟩ "worker" 0 garbled deed.exchanges
          (.error Fault.misshapen.toBroker) := by
  intro fresh pending
  let start : Recovery := { consumer := { fresh with stream := "jobs" }, pending }
  let deed := deedIn true start (.poll ⟨1⟩)
  have subscribed : Course (fresh.subscribe ["jobs"])
      [⟨.command (.createGroup ⟨"jobs", "stt"⟩), .ok (.status "OK")⟩] (.ok (), start.consumer) :=
    .ask _ _ _ (.done _)
  -- After a poll everything is as it was before.
  have served : start.Served deed start := by
    have silent : deed.returned = none := by decide +kernel
    have unmoved : (leftBy true start (.poll ⟨1⟩) pending).consumer = start.consumer := by
      decide +kernel
    have unchanged : leftBy true start (.poll ⟨1⟩) pending = start := by
      rw [leftBy, Recovery.mk.injEq]
      exact ⟨unmoved, rfl, congrArg Option.toList silent⟩
    have once : start.Served deed (leftBy true start (.poll ⟨1⟩) pending) :=
      served_leftBy (.poll ⟨1⟩) trivial
    rwa [unchanged] at once
  have visits : Visits ⟨"jobs", "stt"⟩ "worker" 0 garbled deed.exchanges
      (.error Fault.misshapen.toBroker) := by
    obtain ⟨result, _, polls⟩ := polls_of_perform served.goes.obeys
    have stands : EntryId.read? "0" = some ⟨0, 0⟩ := by decide
    have unread : garbled.fields.read? = none := by decide +kernel
    have first : firstBehind ⟨0, 0⟩ pending = some garbled := List.find?_cons_of_pos (by decide)
    obtain ⟨visits, _⟩ := polls.visits served.answered rfl rfl rfl stands first
    generalize deed.exchanges = exchanges at visits
    cases visits with
    | delivered _ _ _ read => cases unread.symm.trans read
    | reported behind old => exact .reported behind old unread
  have run (polls : Nat) : Run Recovery.Served start (List.replicate polls deed) start := by
    induction polls with
    | zero => exact .none
    | succ polls ih =>
        rw [List.replicate_succ']
        exact ih.next deed served
  have counted (polls : Nat) : attempts (List.replicate polls deed) = polls := by
    induction polls with
    | zero => rfl
    | succ polls ih => exact (congrArg (1 + ·) ih).trans (Nat.add_comm 1 polls)
  refine ⟨start.consumer, subscribed, fun polls =>
    ⟨List.replicate polls deed, start, run polls, counted polls, rfl, fun other member => ?_⟩⟩
  rw [List.eq_of_mem_replicate member]
  exact visits

end Consumer

end Scribe.Stream
