import Scribe.Dialogue
import Scribe.Failure.Basic
import Scribe.Http.Reply
import Scribe.Text.Numeral
import Scribe.Time.Span

/-!
# Downloads

A file is downloaded to a place on the disk. Both the promised and the real length are
held against a limit. A failure that may pass is tried again a number of times, and the
pause before a try doubles from try to try.
-/

namespace Scribe

open Scribe.Http
open Scribe.Text

/-- How a file is downloaded. -/
structure Download where
  /-- The greatest number of bytes. -/
  limit : Nat
  /-- How often another try may follow the first. -/
  retries : Nat := 2
  /-- The pause before the second try. -/
  pause : Time.Span := Time.Span.ofMillis 500

/-- What was downloaded. -/
structure Downloaded where
  size : Nat
  contentType : Option String
deriving DecidableEq, Repr

namespace Download

/-- Something that a download asks for. -/
inductive Question
  /-- Make the directory that the file goes to. -/
  | makeDirectory
  /-- Ask the server for the file. -/
  | get
  /-- Begin the file anew. -/
  | create
  /-- Write at the end of the file. -/
  | write (chunk : ByteArray)
  /-- Bring everything written to the disk. -/
  | flush
  /-- Wait. -/
  | sleep (span : Time.Span)

namespace Question

/-- What a question is answered with. -/
abbrev Answer : Question → Type
  | .makeDirectory => Except Failure Unit
  | .get => Except Fault Reply
  | .create => Except Failure Unit
  | .write _ => Except Failure Unit
  | .flush => Except Failure Unit
  | .sleep _ => Unit

end Question

/-- A computation of a download. -/
abbrev Talk := Dialogue Question Question.Answer

/-- Ask for something. -/
def ask (question : Question) : Talk question.Answer := Dialogue.query question

/-! ## Failures -/

/-- The failure that a fault of the exchange amounts to. -/
def faultFailure (fault : Fault) : Failure :=
  .of (if fault.isLate then .downloadTimeout else .downloadFailed) fault.message

/-- The failure of a file with too many bytes. -/
def tooLarge (limit : Nat) : Failure :=
  .of .audioTooLarge ("Audio exceeds " ++ decimal limit ++ " bytes")

/-- The failure of a file without any bytes. -/
def noContent : Failure :=
  (Failure.of .downloadFailed "Empty audio").withRetryable false

/-- The failure of a request that was not granted. -/
def refused (reply : Reply) : Failure :=
  (Failure.of .downloadFailed ("HTTP " ++ decimal reply.status)).withRetryable
    (reply.status = 429 ∨ reply.isServerError)

/-! ## One try -/

/-- Write pieces behind a number of bytes, and count them. -/
def writeAll (limit : Nat) : (size : Nat) → List ByteArray → Talk (Except Failure Nat)
  | size, [] => return .ok size
  | size, chunk :: rest =>
      if limit < size + chunk.size then return .error (tooLarge limit)
      else do
        match ← ask (.write chunk) with
        | .error failure => return .error failure
        | .ok _ => writeAll limit (size + chunk.size) rest

/-- Write the body of a reply, and count its bytes. -/
def store (limit : Nat) (reply : Reply) : Talk (Except Failure Nat) := do
  match ← ask .create with
  | .error failure => return .error failure
  | .ok _ =>
      match ← writeAll limit 0 reply.chunks with
      | .error failure => return .error failure
      | .ok size =>
          match reply.breaksOff with
          | some fault => return .error (faultFailure fault)
          | none =>
              match ← ask .flush with
              | .error failure => return .error failure
              | .ok _ => return .ok size

/-- Take a reply. -/
def accept (limit : Nat) (reply : Reply) : Talk (Except Failure Downloaded) := do
  if reply.isClientError || reply.isServerError then return .error (refused reply)
  else if reply.declared.any (limit < ·) then return .error (tooLarge limit)
  else
    match ← store limit reply with
    | .error failure => return .error failure
    | .ok size =>
        if size = 0 then return .error noContent else return .ok ⟨size, reply.contentType?⟩

/-- Try once. -/
def attempt (download : Download) : Talk (Except Failure Downloaded) := do
  match ← ask .get with
  | .error fault => return .error (faultFailure fault)
  | .ok reply => accept download.limit reply

/-! ## All tries -/

/-- The pause after a number of tries beyond the first. -/
def pauseAfter (download : Download) (tries : Nat) : Time.Span :=
  ⟨min (download.pause.nanos * min (Nat.pow 2 tries) 0xffffffff) Time.Span.greatest.nanos⟩

/-- Try again while another try may help and some are left. -/
def tryFrom (download : Download) (tries : Nat) : (left : Nat) → Talk (Except Failure Downloaded)
  | 0 => download.attempt
  | left + 1 => do
      match ← download.attempt with
      | .ok downloaded => return .ok downloaded
      | .error failure =>
          if failure.retryable then do
            ask (.sleep (download.pauseAfter tries))
            download.tryFrom (tries + 1) left
          else return .error failure

/-- Download the file. -/
def talk (download : Download) : Talk (Except Failure Downloaded) := do
  match ← ask .makeDirectory with
  | .error failure => return .error failure
  | .ok _ => download.tryFrom 0 download.retries

end Download

end Scribe
