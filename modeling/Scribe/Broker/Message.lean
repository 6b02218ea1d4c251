import Scribe.Text.Blank
import Scribe.Text.Bytes
import Scribe.Text.Numeral

/-!
# Messages

A message stands at an offset of a partition of a topic. Its headers are names with
texts, kept in the order of the names. The header `attempt` counts how often the
job of the message was tried before; one that is missing or unreadable counts as
zero. A record is a message that is to be sent.
-/

namespace Scribe.Broker

open Scribe.Text

/-- Names with texts, in the order of the names, no name twice. -/
abbrev Headers := List (String × String)

namespace Headers

/-- The text of a name. -/
def get? (name : String) : Headers → Option String
  | [] => none
  | (other, text) :: rest => if other = name then some text else get? name rest

/-- Give a name a text; what it had before gives way. -/
def set (name text : String) : Headers → Headers
  | [] => [(name, text)]
  | (other, old) :: rest =>
      if name < other then (name, text) :: (other, old) :: rest
      else if name = other then (name, text) :: rest
      else (other, old) :: set name text rest

/-- Headers from names and texts in any order; of texts with one name the last
stays. -/
def ofList (fields : List (String × String)) : Headers :=
  fields.foldl (fun headers field => headers.set field.1 field.2) []

end Headers

/-- Name of the header that counts attempts. -/
def attemptHeader : String := "attempt"

/-- A message as a consumer gets it; `id` is what the server calls it. -/
structure Message where
  topic : String
  partition : Int
  offset : Int
  key : Option String
  payload : ByteArray
  headers : Headers
  id : String
deriving DecidableEq, Inhabited

/-- The attempt count that a header text means. -/
def readAttempt (text : String) : Nat :=
  match readNatural max32 (trimChars text.toList) with
  | .ok attempt => attempt
  | .error _ => 0

namespace Message

/-- The text of a header. -/
def header? (message : Message) (name : String) : Option String :=
  message.headers.get? name

/-- How often the job of the message was tried before. -/
def attempt (message : Message) : Nat :=
  match message.header? attemptHeader with
  | some text => readAttempt text
  | none => 0

end Message

/-- A message that is to be sent. -/
structure Record where
  topic : String
  key : Option String
  payload : ByteArray
  headers : Headers
deriving DecidableEq, Inhabited

end Scribe.Broker
