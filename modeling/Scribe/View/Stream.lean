import Scribe.Stream.Command
import Scribe.View.Value

/-!
# Views of stream servers

A server is scripted answer by answer, and the commands it has got are shown word by word.
-/

namespace Scribe.View

open Scribe.Stream

mutual

/-- An answer. -/
def reply? : Json → Option Reply
  | .null => some .nil
  | .number (.integer value) => some (.integer value)
  | .string text => some (.bytes text.toUTF8)
  | .array items => some (.list (replies items))
  | .object members =>
      match (Json.lookup? "simple" members).bind Json.string?,
          (Json.lookup? "err" members).bind Json.string? with
      | some text, _ => some (.status text)
      | none, some text => some (.refusal text)
      | none, none => (bytes? (.object members)).map .bytes
  | _ => none

/-- Answers in order. -/
def replies : List Json → List Reply
  | [] => []
  | item :: rest => (reply? item).getD .nil :: replies rest

end

/-- A command, word by word. -/
def command (command : Command) : Json :=
  list bytes command.arguments

end Scribe.View
