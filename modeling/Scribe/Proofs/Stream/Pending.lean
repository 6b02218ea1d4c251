import Scribe.Proofs.Stream.Order
import Scribe.Proofs.Stream.Wire
import Scribe.Proofs.Text.Numeral

/-!
# Entries that are not acknowledged

The server knows for each consumer the entries that it was given and has not acknowledged, in
the order of their ids.  A consumer that reads behind an id is shown the first of them that
lies behind it, with its fields or, if it was trimmed from the stream meanwhile, without.
-/

namespace Scribe.Stream

open Scribe.Broker (Message)
open Scribe.Text

/-! ## Ids -/

/-- The id of an entry: when it was added, and its number among those of one moment. -/
structure EntryId where
  millis : UInt64
  sequence : UInt64
deriving DecidableEq

namespace EntryId

/-- The place of an id among all ids. -/
def rank (id : EntryId) : Nat :=
  id.millis.toNat * 0x10000000000000000 + id.sequence.toNat

instance : LT EntryId := ⟨fun one other => one.rank < other.rank⟩

instance (one other : EntryId) : Decidable (one < other) :=
  inferInstanceAs (Decidable (one.rank < other.rank))

/-- An id as the server writes it. -/
def text (id : EntryId) : String :=
  String.ofList (decimalChars id.millis.toNat ++ '-' :: decimalChars id.sequence.toNat)

/-- Read a half of an id. -/
def readPart? (digits : List Char) : Option UInt64 :=
  (readNatural max64 digits).toOption.map UInt64.ofNat

/-- Read an id; where the number is missing it is zero. -/
def read? (text : String) : Option EntryId := do
  let millis ← readPart? (text.toList.takeWhile (· != '-'))
  match text.toList.dropWhile (· != '-') with
  | [] => return ⟨millis, 0⟩
  | _ :: digits => return ⟨millis, ← readPart? digits⟩

theorem lt_asymm {one other : EntryId} (less : one < other) : ¬ other < one :=
  Nat.lt_asymm less

theorem lt_irrefl (id : EntryId) : ¬ id < id :=
  Nat.lt_irrefl id.rank

theorem readPart?_decimalChars (value : UInt64) :
    readPart? (decimalChars value.toNat) = some value := by
  have fits : value.toNat ≤ max64 := Nat.le_of_lt_succ value.toNat_lt
  rw [readPart?, readNatural_decimalChars fits]
  exact congrArg some value.ofNat_toNat

theorem not_dash_of_mem_decimalChars {value : Nat} {c : Char}
    (member : c ∈ decimalChars value) : (c != '-') = true := by
  obtain ⟨digit, isDigit⟩ := digit_of_mem_decimalChars member
  rw [bne_iff_ne]
  rintro rfl
  cases isDigit

/-- An id that was written is read again. -/
theorem read?_text (id : EntryId) : read? id.text = some id := by
  have front : ∀ c ∈ decimalChars id.millis.toNat, (c != '-') = true :=
    fun c => not_dash_of_mem_decimalChars
  simp only [read?, text, String.toList_ofList, List.takeWhile_append_of_pos front,
    List.dropWhile_append_of_pos front]
  simp [readPart?_decimalChars]

theorem text_injective {one other : EntryId} (same : one.text = other.text) : one = other := by
  have both := read?_text one
  rw [same, read?_text other] at both
  exact (Option.some.inj both).symm

end EntryId

/-! ## Entries and what is shown of them -/

/-- An entry as the server keeps it. -/
structure Stored where
  id : EntryId
  fields : RawFields

namespace Stored

/-- The ways in which an entry is shown: whole, or without its fields once it was trimmed from
the stream.  Each comes with what is read of the fields, if they can be read. -/
inductive Shown (stored : Stored) : Reply → Option Fields → Prop
  | whole : Shown stored (entryReply stored.id.text stored.fields.words) stored.fields.read?
  | trimmed : Shown stored (.list [.bytes (utf8 stored.id.text), .nil]) (some [])

theorem Shown.read {stored : Stored} {reply : Reply} {fields : Option Fields}
    (shown : stored.Shown reply fields) :
    Entry.ofReply reply = legible (fields.map fun fields => ⟨stored.id.text, fields⟩) := by
  cases shown with
  | whole => exact ofReply_entryReply stored.id.text stored.fields
  | trimmed =>
      rw [Entry.ofReply, Reply.pair, text_bytes, ofUtf8?_utf8]
      rfl

/-- The messages that an entry may stand for at an offset. -/
def Gives (stored : Stored) (stream : String) (offset : Nat) (message : Message) : Prop :=
  ∃ reply fields, stored.Shown reply (some fields) ∧
    message = Entry.message ⟨stored.id.text, fields⟩ stream offset

theorem Gives.id {stored : Stored} {stream : String} {offset : Nat} {message : Message}
    (gives : stored.Gives stream offset message) : message.id = stored.id.text := by
  obtain ⟨reply, fields, _, rfl⟩ := gives
  exact Entry.message_id _ stream offset

end Stored

/-- The first of some entries that lies behind an id. -/
def firstBehind (cursor : EntryId) (entries : List Stored) : Option Stored :=
  entries.find? fun stored => decide (cursor < stored.id)

/-- Behind the id of the last entry that was seen comes the first one that was not. -/
theorem firstBehind_append {cursor : EntryId} {seen rest : List Stored}
    (before : ∀ stored ∈ seen, ¬ cursor < stored.id)
    (behind : ∀ stored ∈ rest, cursor < stored.id) :
    firstBehind cursor (seen ++ rest) = rest.head? := by
  have passed : firstBehind cursor seen = none := by
    rw [firstBehind, List.find?_eq_none]
    intro stored member
    simpa using before stored member
  rw [firstBehind, List.find?_append, ← firstBehind, passed, Option.none_or]
  cases rest with
  | nil => rfl
  | cons stored others =>
      exact List.find?_cons_of_pos (decide_eq_true (behind stored List.mem_cons_self))

/-- The replies that show the first of some entries, or that there is none. -/
inductive Shows (stream : String) : Option Stored → Reply → Prop
  | entry (stored : Stored) {reply : Reply} {fields : Option Fields}
      (shown : stored.Shown reply fields) :
      Shows stream (some stored) (streamReply stream [reply])
  | empty : Shows stream none (streamReply stream [])
  | nil : Shows stream none .nil

/-- What a reply shows is what is read of it, unless it cannot be read at all. -/
theorem Shows.streamsOf {stream : String} {found : Option Stored} {reply : Reply}
    (shows : Shows stream found reply) :
    (∃ streams, Consumer.streamsOf reply = .ok streams ∧ found = none ∧
      Consumer.firstEntry? streams = none) ∨
    (∃ streams stored shape fields, Consumer.streamsOf reply = .ok streams ∧
      found = some stored ∧ stored.Shown shape (some fields) ∧
      Consumer.firstEntry? streams = some (stream, ⟨stored.id.text, fields⟩)) ∨
    Consumer.streamsOf reply = .error .misshapen := by
  cases shows with
  | @entry stored shape fields shown =>
      rw [streamsOf_streamReply, List.mapM_cons, List.mapM_nil, shown.read]
      cases fields with
      | none => exact Or.inr (Or.inr rfl)
      | some fields => exact Or.inr (Or.inl ⟨_, stored, shape, fields, rfl, rfl, shown, rfl⟩)
  | empty =>
      rw [streamsOf_streamReply]
      exact Or.inl ⟨_, rfl, rfl, rfl⟩
  | nil => exact Or.inl ⟨[], rfl, rfl, rfl⟩

end Scribe.Stream
