import Scribe.Stream.Consumer

/-!
# Entries on the wire

The server keeps the fields of an entry as words in a row, names and contents in turn, and
gives them back so.  Of these words only the names have to be text: an entry with another name
cannot be read, and neither can a reply that brings it.
-/

namespace Scribe.Stream

open Scribe.Text

/-- What is there is read, and anything else is a fault. -/
def legible {α : Type} : Option α → Read α
  | some value => .ok value
  | none => .error .misshapen

theorem text_bytes (content : ByteArray) :
    Reply.text (.bytes content) = legible (ofUtf8? content) := by
  rw [Reply.text]
  cases ofUtf8? content <;> rfl

/-- Names with contents as the server keeps them. -/
abbrev RawFields := List (ByteArray × ByteArray)

namespace RawFields

/-- The fields of a message as the server keeps them. -/
def ofFields (fields : Fields) : RawFields :=
  fields.map fun field => (utf8 field.1, field.2)

/-- Names and contents in turn. -/
def words (fields : RawFields) : List ByteArray :=
  fields.flatMap fun field => [field.1, field.2]

/-- The fields, if all names are text. -/
def read? : RawFields → Option Fields
  | [] => some []
  | (name, content) :: rest =>
      match ofUtf8? name, read? rest with
      | some name, some fields => some ((name, content) :: fields)
      | _, _ => none

theorem read?_ofFields (fields : Fields) : (ofFields fields).read? = some fields := by
  induction fields with
  | nil => rfl
  | cons field rest ih =>
      rw [ofFields, List.map_cons, ← ofFields, read?, ofUtf8?_utf8, ih]

theorem flatPairs_words (fields : RawFields) :
    Reply.flatPairs Reply.text Reply.content (fields.words.map .bytes) =
      legible fields.read? := by
  induction fields with
  | nil => rfl
  | cons field rest ih =>
      obtain ⟨name, content⟩ := field
      change Reply.flatPairs _ _ (.bytes name :: .bytes content :: (words rest).map .bytes) = _
      rw [Reply.flatPairs, ih, read?, text_bytes]
      cases ofUtf8? name <;> cases read? rest <;> rfl

theorem pairs_words (fields : RawFields) :
    Reply.pairs Reply.text Reply.content (.list (fields.words.map .bytes)) =
      legible fields.read? := by
  cases fields with
  | nil => rfl
  | cons field rest => exact flatPairs_words (field :: rest)

end RawFields

/-- An entry in a reply. -/
def entryReply (id : String) (words : List ByteArray) : Reply :=
  .list [.bytes (utf8 id), .list (words.map .bytes)]

/-- An entry is read exactly if its names are text. -/
theorem ofReply_entryReply (id : String) (fields : RawFields) :
    Entry.ofReply (entryReply id fields.words) =
      legible (fields.read?.map fun fields => ⟨id, fields⟩) := by
  rw [Entry.ofReply, entryReply, Reply.pair, text_bytes, ofUtf8?_utf8, RawFields.pairs_words]
  cases fields.read? <;> rfl

/-- A single pair is read as such. -/
theorem pairs_singleton {α β : Type} (left : Reply → Read α) (right : Reply → Read β)
    (first second : Reply) :
    Reply.pairs left right (.list [.list [first, second]]) =
      (left first).bind fun key => (right second).map fun value => [(key, value)] := by
  change [Reply.list [first, second]].mapM (Reply.pair left right) = _
  rw [List.mapM_cons, List.mapM_nil, Reply.pair]
  cases left first with
  | error fault => rfl
  | ok key => cases right second <;> rfl

/-- The reply to a read of a stream. -/
def streamReply (stream : String) (entries : List Reply) : Reply :=
  .list [.list [.bytes (utf8 stream), .list entries]]

theorem streamsOf_streamReply (stream : String) (entries : List Reply) :
    Consumer.streamsOf (streamReply stream entries) =
      (entries.mapM Entry.ofReply).map fun entries => [(stream, entries)] := by
  simp only [Consumer.streamsOf, streamReply, Reply.optional, pairs_singleton, text_bytes,
    ofUtf8?_utf8]
  change Except.bind (Except.map some (Except.map _ (entries.mapM Entry.ofReply))) _ = _
  cases entries.mapM Entry.ofReply <;> rfl

end Scribe.Stream
