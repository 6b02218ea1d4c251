import Scribe.Broker.Message
import Scribe.Stream.Reply

/-!
# Entries of a stream

A message stands in a stream as a list of fields: its payload under `job`, its key under
`key`, and each header under its name. Of fields with one name the last counts.
-/

namespace Scribe.Stream

open Scribe.Broker
open Scribe.Text

/-- Names with bytes, in order. -/
abbrev Fields := List (String × ByteArray)

/-- The field of the payload. -/
def payloadField : String := "job"

/-- The field of the key. -/
def keyField : String := "key"

/-- An entry of a stream. -/
structure Entry where
  id : String
  fields : Fields
deriving DecidableEq

namespace Entry

/-- Read an entry: its id and its fields. -/
def ofReply (reply : Reply) : Read Entry :=
  (reply.pair Reply.text (Reply.pairs Reply.text Reply.content)).map fun entry =>
    ⟨entry.1, entry.2⟩

/-- Put a field where it belongs in a message. -/
def place (message : Message) (field : String × ByteArray) : Message :=
  if field.1 = payloadField then { message with payload := field.2 }
  else if field.1 = keyField then { message with key := some (lossy field.2) }
  else { message with headers := message.headers.set field.1 (lossy field.2) }

/-- The message that an entry stands for, at an offset. -/
def message (entry : Entry) (stream : String) (offset : Nat) : Message :=
  entry.fields.foldl place
    { topic := stream
      partition := 0
      offset
      key := none
      payload := ByteArray.empty
      headers := []
      id := entry.id }

end Entry

/-- The fields that a record is written as. -/
def fieldsOf (record : Record) : Fields :=
  (payloadField, record.payload) ::
    (record.key.toList.map fun key => (keyField, utf8 key)) ++
    record.headers.map fun header => (header.1, utf8 header.2)

end Scribe.Stream
