import Scribe.Proofs.Broker.Headers
import Scribe.Proofs.Stream.Polling
import Scribe.Proofs.Stream.Wire
import Scribe.Retry.Policy
import Scribe.Stream.Producer

/-!
# Records written as fields and read again

The payload, the key and the headers of a record are written as fields of one list, and only
the names of the fields tell them apart.  What is read under a reserved name never becomes a
header, and headers are in the order of their names.  So a message that was read once can be
written and read again: its headers come back as they are, and none of them is taken for the
payload or the key.
-/

namespace Scribe.Stream

open Scribe.Broker
open Scribe.Dialogue
open Scribe.Text

/-! ## Headers that were read -/

/-- Headers in the order of their names, none of them under a reserved name. -/
structure Unreserved (headers : Headers) : Prop where
  ordered : headers.Ordered
  payload : ∀ header ∈ headers, header.1 ≠ payloadField
  key : ∀ header ∈ headers, header.1 ≠ keyField

theorem unreserved_nil : Unreserved [] where
  ordered := List.Pairwise.nil
  payload := by simp
  key := by simp

theorem Unreserved.set {headers : Headers} (unreserved : Unreserved headers) {name : String}
    (text : String) (noPayload : name ≠ payloadField) (noKey : name ≠ keyField) :
    Unreserved (headers.set name text) where
  ordered := unreserved.ordered.set name text
  payload := by
    intro header member
    rcases Headers.mem_set member with rfl | earlier
    · exact noPayload
    · exact unreserved.payload header earlier
  key := by
    intro header member
    rcases Headers.mem_set member with rfl | earlier
    · exact noKey
    · exact unreserved.key header earlier

theorem Entry.unreserved_place {message : Message} (unreserved : Unreserved message.headers)
    (field : String × ByteArray) : Unreserved (place message field).headers := by
  rw [place]
  split
  · exact unreserved
  next noPayload =>
    split
    · exact unreserved
    next noKey => exact unreserved.set (lossy field.2) noPayload noKey

/-- Whatever the fields of an entry are, the headers of its message are in order and under
names of their own. -/
theorem Entry.unreserved_message (entry : Entry) (stream : String) (offset : Nat) :
    Unreserved (entry.message stream offset).headers := by
  have kept : ∀ (fields : Fields) (message : Message), Unreserved message.headers →
      Unreserved (fields.foldl place message).headers := by
    intro fields
    induction fields with
    | nil => exact fun _ unreserved => unreserved
    | cons field rest ih =>
        exact fun message unreserved => ih (place message field) (unreserved_place unreserved field)
  exact kept entry.fields _ unreserved_nil

/-! ## Fields that were written -/

/-- The fields of headers, read one after another, add these headers behind those in front. -/
theorem Entry.foldl_place_headers (message : Message) (front : Headers) {rest : Headers}
    (unreserved : Unreserved (front ++ rest)) :
    (rest.map fun header => (header.1, utf8 header.2)).foldl place
        { message with headers := front } = { message with headers := front ++ rest } := by
  induction rest generalizing front with
  | nil => rw [List.map_nil, List.foldl_nil, List.append_nil]
  | cons header later ih =>
      have inside : header ∈ front ++ header :: later := by simp
      have above : ∀ earlier ∈ front, earlier.1 < header.1 := fun earlier member =>
        (List.pairwise_append.mp unreserved.ordered).2.2 earlier member header
          List.mem_cons_self
      have placed : place { message with headers := front } (header.1, utf8 header.2) =
          { message with headers := front ++ [header] } := by
        simp only [place, if_neg (unreserved.payload header inside),
          if_neg (unreserved.key header inside), lossy_utf8, Headers.set_of_above above]
      have shifted : front ++ header :: later = (front ++ [header]) ++ later := by simp
      rw [shifted] at unreserved ⊢
      rw [List.map_cons, List.foldl_cons, placed, ih _ unreserved]

/-- What was written comes back: a record is read from its fields as it is. -/
theorem message_fieldsOf {record : Record} (unreserved : Unreserved record.headers)
    (id stream : String) (offset : Nat) :
    Entry.message ⟨id, fieldsOf record⟩ stream offset =
      { topic := stream
        partition := 0
        offset
        key := record.key
        payload := record.payload
        headers := record.headers
        id } := by
  have apart : keyField ≠ payloadField := by decide
  have headers (key : Option String) :=
    Entry.foldl_place_headers ⟨stream, 0, offset, key, record.payload, [], id⟩ [] unreserved
  simp only [Entry.message, fieldsOf, List.cons_append, List.foldl_cons, Entry.place, if_true]
  cases record.key with
  | none => exact headers none
  | some key =>
      simp only [Option.toList_some, List.map_cons, List.map_nil, List.cons_append,
        List.nil_append, List.foldl_cons, Entry.place, if_neg apart, if_true, lossy_utf8]
      exact headers (some key)

/-- The words that a command is sent with as fields. -/
def Command.fieldWords (command : Command) : List ByteArray :=
  command.arguments.drop 6

/-- The words of a record are read as its fields when the server gives them back. -/
theorem ofReply_append (id stream : String) (limit : Int) (fields : Fields) :
    Entry.ofReply (entryReply id (Command.append stream limit fields).fieldWords) =
      .ok ⟨id, fields⟩ := by
  have words : (Command.append stream limit fields).fieldWords =
      (RawFields.ofFields fields).words := by
    simp only [Command.fieldWords, Command.arguments, RawFields.ofFields, RawFields.words,
      List.flatMap_map]
    rfl
  rw [words, ofReply_entryReply, RawFields.read?_ofFields]
  rfl

namespace Producer

/-- A producer sends one command, with the fields of the record. -/
theorem course_send {producer : Producer} {record : Record} {exchanges : List Exchange}
    {result : Except Error Unit} (course : Course (producer.send record) exchanges result) :
    ∃ answer : Read Reply, exchanges =
      [⟨.command (.append record.topic producer.limit (fieldsOf record)), answer⟩] := by
  obtain ⟨answer, rest, rfl, after⟩ := course_call_bind_iff.mp course
  refine ⟨answer, ?_⟩
  split at after
  · obtain ⟨rfl, _⟩ := course_pure_iff.mp after
    rfl
  · obtain ⟨rfl, _⟩ := course_pure_iff.mp after
    rfl

end Producer

/-! ## A message that is sent again -/

/-- A message read again after it was sent with a key and an attempt count. -/
structure Returns (message again : Message) (key : Option String) (attempt : Nat) : Prop where
  payload : again.payload = message.payload
  key : again.key = key
  headers : again.headers = message.headers.set attemptHeader (decimal attempt)
  attempt : again.attempt = attempt

/-- A producer has sent a copy of a message from which the message returns, and no header of
the message stands under the name of its payload or its key. -/
structure SendsCopy (message : Message) (key : Option String) (attempt : Nat)
    (exchanges : List Exchange) : Prop where
  unreserved : ∀ header ∈ message.headers, header.1 ≠ payloadField ∧ header.1 ≠ keyField
  copy : ∃ command answer, exchanges = [⟨.command command, answer⟩] ∧
    ∀ (id topic : String) (offset : Nat), ∃ copy,
      Entry.ofReply (entryReply id command.fieldWords) = .ok copy ∧
        Returns message (copy.message topic offset) key attempt

/-- Whatever fields a message was read from, the copy that counts another attempt survives
the wire: the words that the producer sends are read as the same payload, the key that was
given, and the same headers but for the attempt count. -/
theorem retry_survives_wire (entry : Entry) (stream : String) (offset : Nat)
    (policy : RetryPolicy) (key : Option String) (attempt : Nat) (fits : attempt ≤ max32)
    (producer : Producer) (exchanges : List Exchange) (result : Except Error Unit)
    (sending : Course
      (producer.send (policy.retryRecord (entry.message stream offset) key attempt))
      exchanges result) :
    SendsCopy (entry.message stream offset) key attempt exchanges := by
  have read := entry.unreserved_message stream offset
  have written : Unreserved
      (policy.retryRecord (entry.message stream offset) key attempt).headers :=
    read.set (decimal attempt) (by decide) (by decide)
  obtain ⟨answer, rfl⟩ := Producer.course_send sending
  constructor
  · exact fun header member => ⟨read.payload header member, read.key header member⟩
  · refine ⟨_, answer, rfl, ?_⟩
    intro id topic place
    refine ⟨_, ofReply_append id _ _ _, ?_⟩
    rw [message_fieldsOf written]
    exact ⟨rfl, rfl, rfl, Message.attempt_of_header rfl fits⟩

/-- A server that takes every record. -/
def taking : (question : Question) → question.Answer
  | .connect _ => .ok ()
  | .command _ => .ok (.status "2-0")
  | .clock => ⟨0⟩
  | .drawJitter => .none
  | .sleep _ => ()

/-- A message with fields that stand twice, bytes that are no text, and a count that is the
greatest there is. -/
theorem retry_survives_wire_greatest :
    let entry : Entry := ⟨"1-0", [("key", ⟨#[0x6A, 0xFF]⟩), ("trace", utf8 "old"),
      ("job", utf8 "old"), ("attempt", utf8 " 7 "), ("trace", ⟨#[0xC3]⟩), ("job", ⟨#[0xFE]⟩)]⟩
    let message := entry.message "stt.jobs" 3
    let record := ({} : RetryPolicy).retryRecord message (some "job") max32
    message.payload = ⟨#[0xFE]⟩ ∧
      record.headers = [("attempt", "4294967295"), ("trace", "\uFFFD")] ∧ max32 ≤ max32 ∧
      ∃ exchanges result, Course (({} : Producer).send record) exchanges result ∧
        SendsCopy message (some "job") max32 exchanges := by
  intro entry message record
  have sending := course_follow taking (({} : Producer).send record)
  exact ⟨rfl, by decide +kernel, Nat.le_refl _, _, _, sending,
    retry_survives_wire entry "stt.jobs" 3 {} (some "job") max32 (Nat.le_refl _) {} _ _ sending⟩

end Scribe.Stream
