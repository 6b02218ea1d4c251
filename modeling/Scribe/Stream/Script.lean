import Scribe.Stream.Connect

/-!
# Scripted stream servers

A server that answers commands from a script, in order, and with nothing when the script
has come to its end. The commands are kept. The server may be out of reach. Time passes
only where somebody waits.
-/

namespace Scribe.Stream

/-- A server with its script and the commands so far. -/
structure Server where
  /-- The number of the error with which connecting fails. -/
  outOfReach : Option Int := none
  script : List Reply := []
  commands : List Command := []
  clock : Time.Span := ⟨0⟩

namespace Server

/-- An answer as it comes to the client: a refusal is a fault. -/
def arrive : Reply → Read Reply
  | .refusal text => .error (.refused text)
  | reply => .ok reply

/-- Answer a question. -/
def answer (question : Question) (server : Server) : question.Answer × Server :=
  match question with
  | .connect _ =>
      match server.outOfReach with
      | some error => (.error (.unreachable error), server)
      | none => (.ok (), server)
  | .command command =>
      (arrive (server.script.head?.getD .nil),
        { server with script := server.script.drop 1, commands := server.commands ++ [command] })
  | .clock => (server.clock, server)
  | .drawJitter => (Jitter.none, server)
  | .sleep span => ((), { server with clock := ⟨server.clock.nanos + span.nanos⟩ })

/-- Carry something out with the server. -/
def carryOut {α : Type} (server : Server) (talk : Talk α) : α × Server :=
  talk.run answer server

/-- The server with a script of its own for what comes next. -/
def withScript (server : Server) (script : List Reply) : Server :=
  { server with script, commands := [] }

end Server

end Scribe.Stream
