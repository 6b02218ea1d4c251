import Scribe.Dialogue
import Scribe.Retry.Backoff
import Scribe.Stream.Entry
import Scribe.Time.Span

/-!
# Commands to the stream server

What a worker asks the server for, and how it is written: a list of words, each of them
bytes.
-/

namespace Scribe.Stream

open Scribe.Text

/-- Whose entries are meant: a group of consumers on a stream. -/
structure Group where
  stream : String
  group : String
deriving DecidableEq, Repr

/-- A command. -/
inductive Command
  /-- Is the server there? -/
  | ping
  /-- Make a group that begins with the first entry, and the stream with it. -/
  | createGroup (group : Group)
  /-- Read one entry behind an id as a consumer, and wait for it for some milliseconds. -/
  | readGroup (group : Group) (consumer : String) (wait : Option Nat) (behind : String)
  /-- List entries that are not acknowledged. -/
  | pending (group : Group) (count : Nat)
  /-- Take entries over that have been idle for some milliseconds. -/
  | claim (group : Group) (consumer : String) (idle : Int) (ids : List String)
  /-- Acknowledge an entry. -/
  | acknowledge (group : Group) (id : String)
  /-- Add an entry, and trim the stream to about a length. -/
  | append (stream : String) (limit : Int) (fields : Fields)
deriving DecidableEq

namespace Command

/-- Words of a command as bytes. -/
def words (texts : List String) : List ByteArray :=
  texts.map utf8

/-- A command as it is sent. -/
def arguments : Command → List ByteArray
  | .ping => words ["PING"]
  | .createGroup on => words ["XGROUP", "CREATE", on.stream, on.group, "0", "MKSTREAM"]
  | .readGroup on consumer wait behind =>
      let wait :=
        match wait with
        | none => []
        | some millis => ["BLOCK", decimal millis]
      words (["XREADGROUP", "GROUP", on.group, consumer] ++ wait ++
        ["COUNT", "1", "STREAMS", on.stream, behind])
  | .pending on count => words ["XPENDING", on.stream, on.group, "-", "+", decimal count]
  | .claim on consumer idle ids =>
      words (["XCLAIM", on.stream, on.group, consumer, signedDecimal idle] ++ ids)
  | .acknowledge on id => words ["XACK", on.stream, on.group, id]
  | .append stream limit fields =>
      words ["XADD", stream, "MAXLEN", "~", signedDecimal limit, "*"] ++
        fields.flatMap fun field => [utf8 field.1, field.2]

end Command

/-- Something that is asked in dealing with the server. -/
inductive Question
  /-- Connect to a server. -/
  | connect (address : Address)
  /-- Answer a command. -/
  | command (command : Command)
  /-- How much time has passed since some moment. -/
  | clock
  /-- A random share of a delay. -/
  | drawJitter
  /-- Wait. -/
  | sleep (span : Time.Span)
deriving DecidableEq

namespace Question

/-- What a question is answered with. -/
abbrev Answer : Question → Type
  | .connect _ => Read Unit
  | .command _ => Read Reply
  | .clock => Time.Span
  | .drawJitter => Jitter
  | .sleep _ => Unit

end Question

/-- A computation that deals with the server. -/
abbrev Talk := Dialogue Question Question.Answer

/-- Ask for something. -/
def ask (question : Question) : Talk question.Answer := Dialogue.query question

/-- Send a command, and read what it promises from the answer. -/
def call {α : Type} (command : Command) (read : Reply → Read α) : Talk (Read α) := do
  return (← ask (.command command)).bind read

end Scribe.Stream
