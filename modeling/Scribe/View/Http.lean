import Scribe.Http.Server
import Scribe.View.Value

/-!
# Views of requests and replies

A server is scripted reply by reply, and the requests it has got are shown. Bytes are
shown as text here, with a replacement for what is none.
-/

namespace Scribe.View

open Scribe.Http
open Scribe.Text

/-- A scripted reply. -/
def scriptedOf (json : Json) : Scripted where
  status := json.natAt "status" 200
  headers := (json.field "headers").members.filterMap fun header =>
    (bytes? header.2).map fun value => (header.1, value)
  body := bytesAt json "body"
  declared := (json.field "declared").nat?
  untilClose := json.boolAt "until_close" false
  chunks :=
    match json.field "chunks" with
    | .array chunks => some (chunks.filterMap bytes?)
    | _ => none
  truncated := json.boolAt "truncate" false
  hangsUp := json.boolAt "hang_up" false
  delay := .ofMillis (json.natAt "delay_ms" 0)

/-- A part of a form. -/
def part (part : Part) : Json :=
  .array [.string part.name, .ofOption part.fileName, .ofOption part.contentType,
    .string (lossy part.content)]

/-- A request. -/
def request (request : Request) : Json :=
  let common := [("method", .string request.verb.name), ("target", .string request.address.target)]
  let content :=
    match request.content with
    | .empty => [("content_type", .string ""), ("body", .string "")]
    | .bytes kind content => [("content_type", .string kind), ("body", .string (lossy content))]
    | .form parts => [("content_type", .string "multipart/form-data"), ("parts", list part parts)]
  object (common ++ content)

end Scribe.View
