import Scribe.Stream.Consumer
import Scribe.Stream.Producer
import Scribe.Stream.Script
import Scribe.View.Message
import Scribe.View.Stream

/-!
# Walking through the use of a stream

A consumer and a producer are used step by step against a scripted server.
-/

namespace Scribe.Walkthrough

open Scribe.Stream
open Scribe.View

/-- A consumer and a producer with their server, and the messages so far. -/
structure StreamUse where
  consumer : Consumer
  producer : Producer
  server : Server
  messages : List Broker.Message := []

/-- Make one step. -/
def StreamUse.step (use : StreamUse) (json : Json) : Json × StreamUse :=
  let server := use.server.withScript (replies (json.itemsAt "replies"))
  let use := { use with server }
  match json.textAt "do" "" with
  | "subscribe" =>
      let ((result, consumer), server) :=
        server.carryOut (use.consumer.subscribe (textsAt json "topics"))
      (done result, { use with consumer, server })
  | "poll" =>
      let ((result, consumer), server) :=
        server.carryOut (use.consumer.poll (spanAt json "timeout" ⟨0⟩))
      let messages := use.messages ++ result.toOption.join.toList
      (polled result, { use with consumer, server, messages })
  | "commit" =>
      match use.messages[json.natAt "message" 0]? with
      | none => (.null, use)
      | some message =>
          let (result, server) := server.carryOut (use.consumer.commit message)
          (done result, { use with server })
  | "pause" => (.string "ok", { use with consumer := use.consumer.pause })
  | "resume" => (.string "ok", { use with consumer := use.consumer.resume })
  | "send" =>
      let (result, server) := server.carryOut (use.producer.send (recordOf json "stt.results"))
      (done result, { use with server })
  | _ => (.string "ok", use)

/-- Make one step, and show the commands with it. -/
def StreamUse.walk (json : Json) (use : StreamUse) : Json × StreamUse :=
  let (result, use) := use.step json
  (object [("result", result), ("commands", list command use.server.commands),
    ("unused_replies", count use.server.script.length)], use)

end Scribe.Walkthrough
