import Scribe.Proofs.Stream.Claiming
import Scribe.Proofs.Stream.Recovery

/-!
# A server that lends entries

The server knows with which consumer of a group each entry lies.  A read makes new entries lie
with the one that reads, and a claim makes them lie with the one that claims; the answer only
tells of it, and may not arrive.  Other consumers are served meanwhile, but what lies with one
consumer the others leave to it.  So in a pass a consumer is brought what was taken over, and all
of it or nothing.
-/

namespace Scribe.Stream

open Scribe.Dialogue

/-! ## Where entries lie -/

/-- Where an entry is, as far as a group of consumers is concerned. -/
inductive Place
  /-- No consumer was given it so far. -/
  | unread
  /-- It was given to a consumer, or taken over by it, and is not acknowledged. -/
  | lent (owner : String)
  | acknowledged
deriving DecidableEq

/-- Where each entry is, by its id. -/
abbrev Places := String → Place

namespace Places

/-- Some entries are made to lie with a consumer. -/
def lend (places : Places) (name : String) (ids : List String) : Places :=
  fun id => if id ∈ ids then .lent name else places id

/-- An entry is acknowledged. -/
def settle (places : Places) (id : String) : Places :=
  fun other => if other = id then .acknowledged else places other

variable {places : Places} {name id : String} {ids : List String}

theorem lend_of_mem (member : id ∈ ids) : places.lend name ids id = .lent name :=
  if_pos member

theorem lend_of_not_mem (other : id ∉ ids) : places.lend name ids id = places id :=
  if_neg other

end Places

/-- What other consumers do meanwhile: they are given new entries, take entries over from one
another and acknowledge theirs.  What lies with this consumer they leave to it. -/
structure Meanwhile (name : String) (places later : Places) : Prop where
  own : ∀ id, later id = .lent name ↔ places id = .lent name
  acknowledged : ∀ id, places id = .acknowledged → later id = .acknowledged
  unread : ∀ id, later id = .unread → places id = .unread

theorem meanwhile_nothing (name : String) (places : Places) : Meanwhile name places places :=
  ⟨fun _ => .rfl, fun _ => id, fun _ => id⟩

/-! ## Answers in a pass -/

/-- An unfinished entry as it is listed. -/
def Unfinished.reply (entry : Unfinished) : Reply :=
  .list [.bytes (Text.utf8 entry.id), .bytes (Text.utf8 entry.owner), .integer entry.idle,
    .integer entry.deliveries]

/-- The answer to the question which entries are unfinished. -/
def listing (unfinished : List Unfinished) : Reply :=
  .list (unfinished.map Unfinished.reply)

theorem Unfinished.ofReply_reply (entry : Unfinished) : ofReply entry.reply = .ok entry := by
  have read (id owner : String) : (do
      return ⟨← (Reply.bytes (Text.utf8 id)).text, ← (Reply.bytes (Text.utf8 owner)).text,
        ← (Reply.integer entry.idle).number, ← (Reply.integer entry.deliveries).number⟩) =
      (Except.ok ⟨id, owner, entry.idle, entry.deliveries⟩ : Read Unfinished) := by
    rw [text_bytes, text_bytes, Text.ofUtf8?_utf8, Text.ofUtf8?_utf8]
    rfl
  exact read entry.id entry.owner

/-- What is listed is read. -/
theorem unfinishedOf_listing (unfinished : List Unfinished) :
    Consumer.unfinishedOf (listing unfinished) = .ok unfinished := by
  change (unfinished.map Unfinished.reply).mapM Unfinished.ofReply = _
  induction unfinished with
  | nil => rfl
  | cons first others ih =>
      rw [List.map_cons, List.mapM_cons, first.ofReply_reply, ih]
      rfl

theorem Pass.unfinished_of_listing {pass : Pass} {unfinished : List Unfinished}
    (listed : pass.listed = .ok (listing unfinished)) : pass.unfinished = unfinished := by
  apply Pass.unfinished_of_ok
  rw [listed]
  exact unfinishedOf_listing unfinished

/-- An entry that is taken over, with its fields unless it was trimmed from the stream. -/
structure Taken where
  id : String
  fields : Option RawFields

namespace Taken

/-- The entry in the answer to a claim. -/
def reply (taken : Taken) : Reply :=
  match taken.fields with
  | some fields => entryReply taken.id fields.words
  | none => .nil

/-- Whether all names that are shown of an entry are text. -/
def isLegible (taken : Taken) : Bool :=
  taken.fields.all fun fields => fields.read?.isSome

/-- What is read of an entry, if there is anything to read. -/
def entry? (taken : Taken) : Option Entry :=
  taken.fields.bind fun fields => fields.read?.map (⟨taken.id, ·⟩)

theorem id_of_entry? {taken : Taken} {entry : Entry} (read : taken.entry? = some entry) :
    entry.id = taken.id := by
  obtain ⟨fields, _, told⟩ := Option.bind_eq_some_iff.mp read
  obtain ⟨_, _, rfl⟩ := Option.map_eq_some_iff.mp told
  rfl

/-- An entry that was trimmed is passed over, and one with a name that is no text is a fault. -/
theorem optional_reply (taken : Taken) :
    Reply.optional Entry.ofReply taken.reply =
      if taken.isLegible then .ok taken.entry? else .error .misshapen := by
  obtain ⟨id, fields⟩ := taken
  cases fields with
  | none => rfl
  | some fields =>
      change (Entry.ofReply (entryReply id fields.words)).map some = _
      rw [ofReply_entryReply, isLegible, entry?, Option.all_some, Option.bind_some]
      cases fields.read? <;> rfl

end Taken

/-- The answer to a claim that is carried out. -/
def handing (taken : List Taken) : Reply :=
  .list (taken.map Taken.reply)

/-- Either all that was taken over is read or nothing of it. -/
theorem claimedOf_handing (taken : List Taken) :
    Consumer.claimedOf (handing taken) =
      if taken.all Taken.isLegible then .ok (taken.filterMap Taken.entry?)
      else .error .misshapen := by
  have each : (taken.map Taken.reply).mapM (Reply.optional Entry.ofReply) =
      if taken.all Taken.isLegible then .ok (taken.map Taken.entry?) else .error .misshapen := by
    induction taken with
    | nil => rfl
    | cons first others ih =>
        rw [List.map_cons, List.mapM_cons, first.optional_reply, ih, List.all_cons]
        cases first.isLegible with
        | false => rfl
        | true =>
            rw [Bool.true_and]
            cases others.all Taken.isLegible <;> rfl
  change ((taken.map Taken.reply).mapM (Reply.optional Entry.ofReply)).bind
    (fun entries => .ok (entries.filterMap id)) = _
  rw [each]
  cases taken.all Taken.isLegible with
  | false => rfl
  | true =>
      change Except.ok ((taken.map Taken.entry?).filterMap id) = _
      rw [List.filterMap_map]
      rfl

/-- The answer to a claim cannot be read if there is one entry in it that cannot. -/
theorem claimedOf_handing_error_iff {taken : List Taken} :
    (∃ fault, Consumer.claimedOf (handing taken) = .error fault) ↔
      ∃ entry ∈ taken, entry.isLegible = false := by
  rw [claimedOf_handing]
  cases all : taken.all Taken.isLegible with
  | true =>
      have legible := List.all_eq_true.mp all
      constructor
      · rintro ⟨fault, read⟩
        cases read
      · rintro ⟨entry, member, illegible⟩
        cases (legible entry member).symm.trans illegible
  | false =>
      obtain ⟨entry, member, illegible⟩ := List.all_eq_false.mp all
      exact ⟨fun _ => ⟨entry, member, Bool.eq_false_iff.mpr illegible⟩,
        fun _ => ⟨.misshapen, rfl⟩⟩

/-- What a claim brings that is answered: all that is shown, if all of it can be read. -/
theorem received_handing (on : Group) (name : String) (idle : Int) (ids : List String)
    (taken : List Taken) :
    received ⟨.command (.claim on name idle ids), .ok (handing taken)⟩ =
      if taken.all Taken.isLegible then (taken.filterMap Taken.entry?).map (on.stream, ·)
      else [] := by
  have read : (Except.ok (handing taken) : Read Reply).bind Consumer.claimedOf =
      if taken.all Taken.isLegible then .ok (taken.filterMap Taken.entry?)
      else .error .misshapen := claimedOf_handing taken
  rw [received, read]
  cases taken.all Taken.isLegible <;> rfl

/-- What a read brings that is answered with an entry. -/
theorem received_streamReply (on : Group) (name id : String) (wait : Option Nat)
    (behind : String) (fields : RawFields) :
    received ⟨.command (.readGroup on name wait behind),
        .ok (streamReply on.stream [entryReply id fields.words])⟩ =
      (fields.read?.map fun fields => (on.stream, ⟨id, fields⟩)).toList := by
  have read := streamsOf_streamReply on.stream [entryReply id fields.words]
  rw [List.mapM_cons, List.mapM_nil, ofReply_entryReply] at read
  have answered : (Except.ok (streamReply on.stream [entryReply id fields.words]) :
      Read Reply).bind Consumer.streamsOf = _ := read
  rw [received, answered]
  cases fields.read? <;> rfl

/-! ## A server that lends entries -/

/-- What is exchanged with a server, and where entries are afterwards.  What lies with a consumer
is listed as lying with it.  A claim takes over some of the entries that were asked for and shows
them, or it is not carried out and there is a fault; a new entry comes to lie with the one that
reads it.  Whatever was done, the answer may get lost. -/
inductive Serves (on : Group) (name : String) (places : Places) : Exchange → Places → Prop
  | listed {count : Nat} {answer : Read Reply}
      (honest : ∀ unfinished, answer.bind Consumer.unfinishedOf = .ok unfinished →
        ∀ entry ∈ unfinished, places entry.id = .lent entry.owner) :
      Serves on name places ⟨.command (.pending on count), answer⟩ places
  | handed {idle : Int} {ids : List String} {answer : Read Reply} (taken : List Taken)
      (asked : ∀ entry ∈ taken, entry.id ∈ ids ∧ ∃ owner, places entry.id = .lent owner)
      (told : answer = .ok (handing taken) ∨ ∃ fault, answer = .error fault) :
      Serves on name places ⟨.command (.claim on name idle ids), answer⟩
        (places.lend name (taken.map Taken.id))
  | refused {idle : Int} {ids : List String} {answer : Read Reply}
      (vain : ∃ fault, answer.bind Consumer.claimedOf = .error fault) :
      Serves on name places ⟨.command (.claim on name idle ids), answer⟩ places
  | given {wait : Option Nat} {answer : Read Reply} (id : String) (fields : RawFields)
      (new : places id = .unread)
      (told : answer = .ok (streamReply on.stream [entryReply id fields.words]) ∨
        ∃ fault, answer = .error fault) :
      Serves on name places ⟨.command (.readGroup on name wait ">"), answer⟩
        (places.lend name [id])
  | nothing {wait : Option Nat} {answer : Read Reply}
      (vain : received ⟨.command (.readGroup on name wait ">"), answer⟩ = []) :
      Serves on name places ⟨.command (.readGroup on name wait ">"), answer⟩ places
  | acknowledged {id : String} {answer : Read Reply} (lies : ∃ owner, places id = .lent owner) :
      Serves on name places ⟨.command (.acknowledge on id), answer⟩ (places.settle id)
  | elsewhere {exchange : Exchange} (other : exchange.question.goesBeyond = false) :
      Serves on name places exchange places

/-- An exchange with such a server, before which others were served. -/
def Attends (on : Group) (name : String) (places : Places) (exchange : Exchange)
    (later : Places) : Prop :=
  ∃ between, Meanwhile name places between ∧ Serves on name between exchange later

theorem Serves.attends {on : Group} {name : String} {places later : Places} {exchange : Exchange}
    (serves : Serves on name places exchange later) : Attends on name places exchange later :=
  ⟨places, meanwhile_nothing name places, serves⟩

/-- An honest list. -/
theorem serves_listing {on : Group} {name : String} {places : Places} {count : Nat}
    {unfinished : List Unfinished}
    (lies : ∀ entry ∈ unfinished, places entry.id = .lent entry.owner) :
    Serves on name places ⟨.command (.pending on count), .ok (listing unfinished)⟩ places := by
  refine .listed fun told read => ?_
  cases (unfinishedOf_listing unfinished).symm.trans read
  exact lies

/-- Whether entries are taken over or one is acknowledged. -/
def Question.isTransfer : Question → Bool
  | .command (.claim _ _ _ _) => true
  | .command (.acknowledge _ _) => true
  | _ => false

theorem Question.isTransfer_of_isReading {question : Question}
    (reading : question.isReading = true) : question.isTransfer = false := by
  cases question with
  | command command => cases command <;> first | rfl | cases reading
  | _ => rfl

section Serves

variable {on : Group} {name : String} {places later : Places} {exchange : Exchange}
  {exchanges : List Exchange}

/-! ## Entries that are not given out again -/

/-- An entry that no one is given anymore: it lies with the consumer, or is acknowledged. -/
def Reserved (name id : String) (places : Places) : Prop :=
  places id = .lent name ∨ places id = .acknowledged

theorem Reserved.meanwhile {id : String} (reserved : Reserved name id places)
    (meanwhile : Meanwhile name places later) : Reserved name id later :=
  reserved.imp (meanwhile.own id).mpr (meanwhile.acknowledged id)

theorem Reserved.lend {id : String} (reserved : Reserved name id places) (ids : List String) :
    Reserved name id (places.lend name ids) := by
  by_cases member : id ∈ ids
  · exact Or.inl (Places.lend_of_mem member)
  · rwa [Reserved, Places.lend_of_not_mem member]

theorem Reserved.settle {id : String} (reserved : Reserved name id places) (other : String) :
    Reserved name id (places.settle other) := by
  by_cases same : id = other
  · exact Or.inr (if_pos same)
  · rwa [Reserved, Places.settle, if_neg same]

theorem Reserved.attends {id : String} (reserved : Reserved name id places)
    (attends : Attends on name places exchange later) : Reserved name id later := by
  obtain ⟨between, meanwhile, serves⟩ := attends
  have still := reserved.meanwhile meanwhile
  cases serves with
  | listed => exact still
  | handed => exact still.lend _
  | refused => exact still
  | given => exact still.lend _
  | nothing => exact still
  | acknowledged => exact still.settle _
  | elsewhere => exact still

theorem Reserved.run {id : String} (reserved : Reserved name id places)
    (run : Run (Attends on name) places exchanges later) : Reserved name id later := by
  induction run with
  | none => exact reserved
  | next earlier exchange attends still => exact still.attends attends

/-- An entry remains reserved up to each exchange of a run. -/
theorem Reserved.serves {id : String} (reserved : Reserved name id places)
    (run : Run (Attends on name) places exchanges later) (member : exchange ∈ exchanges) :
    ∃ before after, Reserved name id before ∧ Serves on name before exchange after := by
  obtain ⟨early, late, split⟩ := List.append_of_mem member
  obtain ⟨before, after, first, between, meanwhile, serves⟩ := run.split split
  exact ⟨between, after, (reserved.run first).meanwhile meanwhile, serves⟩

/-- What lies with the consumer is not listed as overdue. -/
theorem Serves.not_overdue {id : String} {group : Group} {millis : Nat} {pass : Pass}
    (serves : Serves on name places ⟨.command (.pending group Consumer.batch), pass.listed⟩ later)
    (reserved : Reserved name id places) : id ∉ overdue name millis pass.unfinished := by
  intro member
  obtain ⟨entry, listed, rfl⟩ := List.mem_map.mp member
  obtain ⟨inside, due⟩ := List.mem_filter.mp listed
  have foreign : entry.owner ≠ name := (of_decide_eq_true due).2
  cases serves with
  | listed honest =>
      cases read : pass.listed.bind Consumer.unfinishedOf with
      | error fault =>
          rw [Pass.unfinished_of_error read] at inside
          cases inside
      | ok unfinished =>
          rw [Pass.unfinished_of_ok read] at inside
          have lies := honest unfinished read entry inside
          rcases reserved with own | done
          · exact foreign (Place.lent.inj (lies.symm.trans own))
          · cases lies.symm.trans done
  | elsewhere other => cases other

/-- No exchange brings an entry that is reserved, unless it is claimed or taken up again. -/
theorem Serves.received_ne {id : String} (serves : Serves on name places exchange later)
    (reserved : Reserved name id places) (new : exchange.question.isReplay = false)
    (unclaimed : ∀ idle ids, exchange.question = .command (.claim on name idle ids) → id ∉ ids) :
    ∀ found ∈ received exchange, found.2.id ≠ id := by
  rintro found member rfl
  cases serves with
  | listed => cases member
  | @handed idle ids answer taken asked told =>
      rcases told with rfl | ⟨fault, rfl⟩
      · rw [received_handing] at member
        split at member
        · obtain ⟨entry, inside, rfl⟩ := List.mem_map.mp member
          obtain ⟨shown, there, read⟩ := List.mem_filterMap.mp inside
          rw [Taken.id_of_entry? read] at unclaimed
          exact unclaimed idle ids rfl (asked shown there).1
        · cases member
      · cases member
  | refused vain =>
      obtain ⟨fault, read⟩ := vain
      rw [received, read] at member
      cases member
  | given id fields unread told =>
      rcases told with rfl | ⟨fault, rfl⟩
      · rw [received_streamReply, Option.mem_toList, Option.map_eq_some_iff] at member
        obtain ⟨shown, _, rfl⟩ := member
        rcases reserved with own | done
        · cases unread.symm.trans own
        · cases unread.symm.trans done
      · cases member
  | nothing vain =>
      rw [vain] at member
      cases member
  | acknowledged => cases member
  | elsewhere other =>
      obtain ⟨question, answer⟩ := exchange
      cases question with
      | command command =>
          cases command with
          | readGroup group reader wait behind =>
              have old : (behind == ">") = false := other
              rw [Question.isReplay, bne, old] at new
              cases new
          | claim => cases other
          | _ => cases member
      | _ => cases member

/-! ## Where entries come from -/

/-- None of a consumer's entries leaves it, and none comes to it but some that are named and
those that were unread. -/
structure Moves (name : String) (ids : List String) (places later : Places) : Prop where
  kept : ∀ id, places id = .lent name → later id = .lent name
  come : ∀ id, later id = .lent name → places id = .lent name ∨ places id = .unread ∨ id ∈ ids
  unread : ∀ id, later id = .unread → places id = .unread

theorem moves_nothing (name : String) (ids : List String) (places : Places) :
    Moves name ids places places :=
  ⟨fun _ => id, fun _ => Or.inl, fun _ => id⟩

theorem Moves.trans {ids : List String} {between : Places} (moves : Moves name ids places between)
    (more : Moves name ids between later) : Moves name ids places later := by
  refine ⟨fun id own => more.kept id (moves.kept id own), fun id own => ?_,
    fun id unread => moves.unread id (more.unread id unread)⟩
  rcases more.come id own with own | unread | named
  · exact moves.come id own
  · exact Or.inr (Or.inl (moves.unread id unread))
  · exact Or.inr (Or.inr named)

theorem Meanwhile.moves (meanwhile : Meanwhile name places later) (ids : List String) :
    Moves name ids places later :=
  ⟨fun id => (meanwhile.own id).mpr, fun id own => Or.inl ((meanwhile.own id).mp own),
    meanwhile.unread⟩

/-- To lend entries moves no others. -/
theorem moves_lend {ids more : List String}
    (come : ∀ id ∈ more, places id = .unread ∨ id ∈ ids) :
    Moves name ids places (places.lend name more) := by
  have lent {id : String} (member : id ∈ more) : places.lend name more id = .lent name :=
    Places.lend_of_mem member
  have same {id : String} (other : id ∉ more) : places.lend name more id = places id :=
    Places.lend_of_not_mem other
  refine ⟨fun id own => ?_, fun id own => ?_, fun id unread => ?_⟩
  · by_cases member : id ∈ more
    · exact lent member
    · exact (same member).trans own
  · by_cases member : id ∈ more
    · exact Or.inr (come id member)
    · exact Or.inl ((same member).symm.trans own)
  · by_cases member : id ∈ more
    · cases (lent member).symm.trans unread
    · exact (same member).symm.trans unread

/-- Unless entries are taken over or acknowledged, only new ones move. -/
theorem Attends.moves (attends : Attends on name places exchange later)
    (still : exchange.question.isTransfer = false) (ids : List String) :
    Moves name ids places later := by
  obtain ⟨between, meanwhile, serves⟩ := attends
  refine (meanwhile.moves ids).trans ?_
  cases serves with
  | handed => cases still
  | refused => cases still
  | acknowledged => cases still
  | given id fields new =>
      apply moves_lend
      rintro other member
      obtain rfl := List.mem_singleton.mp member
      exact Or.inl new
  | listed => exact moves_nothing name ids _
  | nothing => exact moves_nothing name ids _
  | elsewhere => exact moves_nothing name ids _

theorem moves_of_run (run : Run (Attends on name) places exchanges later)
    (still : ∀ exchange ∈ exchanges, exchange.question.isTransfer = false) (ids : List String) :
    Moves name ids places later := by
  induction run with
  | none => exact moves_nothing name ids places
  | next earlier exchange attends ih =>
      obtain ⟨before, last⟩ := List.forall_mem_append.mp still
      exact (ih before).trans (attends.moves (last exchange (List.mem_singleton_self _)) ids)

/-- What a pass takes over: entries that it has claimed, and of these nothing is known but by
the answer. -/
structure Pass.TakesOver (name : String) (millis : Nat) (pass : Pass) (taken : List Taken)
    (places later : Places) : Prop where
  moves : Moves name (taken.map Taken.id) places later
  claimed : ∀ entry ∈ taken, entry.id ∈ overdue name millis pass.unfinished ∧
    later entry.id = .lent name
  told : taken ≠ [] → pass.handed = .ok (handing taken) ∨ ∃ fault, pass.handed = .error fault

theorem Pass.takesOver {pass : Pass} {millis : Nat}
    (run : Run (Attends on name) places (pass.exchanges name millis) later) :
    ∃ taken, pass.TakesOver name millis taken places later := by
  obtain ⟨between, listing, claiming⟩ := run.of_append rfl
  have first := moves_of_run listing (by simp [Question.isTransfer])
  have nothing (moves : Moves name [] between later) :
      ∃ taken, pass.TakesOver name millis taken places later :=
    ⟨[], (first []).trans moves, nofun, fun some => absurd rfl some⟩
  rw [claim] at claiming
  split at claiming
  · obtain rfl := claiming.of_nil
    exact nothing (moves_nothing name [] later)
  · obtain ⟨middle, meanwhile, serves⟩ := claiming.of_singleton
    cases serves with
    | handed taken asked told =>
        refine ⟨taken, ?_, fun entry member => ⟨(asked entry member).1, ?_⟩, fun _ => told⟩
        · exact (first _).trans ((meanwhile.moves _).trans (moves_lend fun id => Or.inr))
        · exact Places.lend_of_mem (List.mem_map_of_mem member)
    | refused => exact nothing (meanwhile.moves [])
    | elsewhere other => cases other

/-- A pass that has made a claim has had a list to go by, so it goes by the answer to the claim
whether it fails. -/
theorem Pass.failed_iff {millis : Nat} {pass : Pass}
    (some : overdue name millis pass.unfinished ≠ []) :
    pass.Failed name millis ↔ ∃ fault, pass.handed.bind Consumer.claimedOf = .error fault := by
  constructor
  · rintro (⟨fault, unlisted⟩ | ⟨_, unhanded⟩)
    · rw [Pass.unfinished_of_error unlisted] at some
      exact absurd rfl some
    · exact unhanded
  · exact fun unhanded => Or.inr ⟨some, unhanded⟩

theorem Pass.TakesOver.faulty {millis : Nat} {pass : Pass} {taken : List Taken}
    (takes : pass.TakesOver name millis taken places later) (some : taken ≠ []) :
    pass.Failed name millis ↔
      (∃ fault, pass.handed = .error fault) ∨ ∃ entry ∈ taken, entry.isLegible = false := by
  obtain ⟨first, others, rfl⟩ := List.exists_cons_of_ne_nil some
  have due := List.ne_nil_of_mem (takes.claimed first List.mem_cons_self).1
  rw [Pass.failed_iff due]
  rcases takes.told some with told | ⟨fault, told⟩
  · rw [told]
    refine claimedOf_handing_error_iff.trans ⟨Or.inr, ?_⟩
    rintro (⟨fault, lost⟩ | illegible)
    · cases lost
    · exact illegible
  · rw [told]
    exact ⟨fun _ => Or.inl ⟨fault, rfl⟩, fun _ => ⟨fault, rfl⟩⟩

/-- What is taken over in a pass that does not fail is brought by its claim. -/
theorem Pass.TakesOver.brought {millis : Nat} {pass : Pass} {taken : List Taken}
    {entry : Taken} {fields : RawFields}
    (takes : pass.TakesOver name millis taken places later) (succeeds : ¬ pass.Failed name millis)
    (member : entry ∈ taken) (shown : entry.fields = some fields) :
    ∃ read, fields.read? = some read ∧
      (pass.on.stream, ⟨entry.id, read⟩) ∈ entriesOf (pass.exchanges name millis) := by
  have some := List.ne_nil_of_mem member
  have due := List.ne_nil_of_mem (takes.claimed entry member).1
  have legible : ∀ other ∈ taken, other.isLegible = true := by
    intro other inside
    cases read : other.isLegible with
    | true => rfl
    | false => exact absurd ((takes.faulty some).mpr (Or.inr ⟨other, inside, read⟩)) succeeds
  have readable := legible entry member
  rw [Taken.isLegible, shown, Option.all_some, Option.isSome_iff_exists] at readable
  obtain ⟨read, told⟩ := readable
  have entry? : entry.entry? = Option.some ⟨entry.id, read⟩ := by
    rw [Taken.entry?, shown, Option.bind_some, told]
    rfl
  refine ⟨read, told, ?_⟩
  rcases takes.told some with answered | unanswered
  · rw [Pass.exchanges_of_some (List.isEmpty_eq_false_iff.mpr due)]
    simp only [entriesOf, List.flatMap_cons, List.mem_append]
    refine Or.inr (Or.inr (Or.inl ?_))
    rw [answered, received_handing, if_pos (List.all_eq_true.mpr legible)]
    exact List.mem_map_of_mem (List.mem_filterMap.mpr ⟨entry, member, entry?⟩)
  · exact absurd ((takes.faulty some).mpr (Or.inl unanswered)) succeeds

end Serves

end Scribe.Stream
