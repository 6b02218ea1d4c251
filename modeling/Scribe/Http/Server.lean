import Scribe.Http.Reply
import Scribe.Text.Utf8
import Scribe.Time.Span

/-!
# Scripted servers

A server that replies from a script, one reply for each request, and keeps the requests.
A server that is offline is never reached, and nothing else is reachable at all. A client
follows a reply that points elsewhere a limited number of times.
-/

namespace Scribe.Http

/-- A reply as it is scripted. -/
structure Scripted where
  status : Nat := 200
  headers : List (String × ByteArray) := []
  body : ByteArray := ByteArray.empty
  /-- The length that is promised, where it is not that of the body. -/
  declared : Option Nat := none
  /-- Promise no length. -/
  untilClose : Bool := false
  /-- The pieces of a body that is sent piece by piece. -/
  chunks : Option (List ByteArray) := none
  /-- Leave the end of such a body out. -/
  truncated : Bool := false
  /-- Close without a reply. -/
  hangsUp : Bool := false
  /-- The time before the reply. -/
  delay : Time.Span := ⟨0⟩

namespace Scripted

/-- The reply when the script has come to its end. -/
def exhausted : Scripted := { status := 410 }

/-- The body as it arrives: a promised length cuts a longer body, and a shorter one
breaks off. -/
def arrive (scripted : Scripted) : Reply :=
  let reply : Reply := { status := scripted.status, headers := scripted.headers }
  if scripted.status = 204 ∨ scripted.status = 304 then reply
  else
    match scripted.chunks with
    | some chunks =>
        { reply with
          chunks
          breaksOff := if scripted.truncated then some (.broken false) else none }
    | none =>
        if scripted.untilClose then { reply with chunks := [scripted.body] }
        else
          let length := scripted.declared.getD scripted.body.size
          { reply with
            declared := some length
            chunks := [scripted.body.extract 0 length]
            breaksOff := if scripted.body.size < length then some (.broken false) else none }

/-- The reply to a request for an address within a time. -/
def reply (scripted : Scripted) (address : Url) (timeout : Option Time.Span) :
    Except Fault Reply :=
  if timeout.any fun limit => decide (limit ≤ scripted.delay) then .error (.unsent address true)
  else if scripted.hangsUp then .error (.unsent address false)
  else .ok scripted.arrive

end Scripted

/-- A server with its script and the requests so far. -/
structure Server where
  /-- The address that leads to it, up to the path. -/
  address : String
  online : Bool
  script : List Scripted := []
  requests : List Request := []

/-- How often a client follows a reply that points elsewhere. -/
def redirectLimit : Nat := 10

/-- Where a reply points. -/
def Reply.location? (reply : Reply) (address : Url) : Option Url := do
  if !([301, 302, 303, 307, 308].contains reply.status) then none
  let text ← Text.ofUtf8? (← reply.header? "location")
  (address.resolve text).toOption

/-- The request that follows a reply that points elsewhere. -/
def Request.follow (request : Request) (status : Nat) (address : Url) : Request :=
  if status = 307 ∨ status = 308 then { request with address }
  else { verb := .get, address }

namespace Server

/-- Make one request. -/
def exchange (server : Server) (timeout : Option Time.Span) (request : Request) :
    Except Fault Reply × Server :=
  let authority := request.address.scheme ++ ":" ++ request.address.renderAuthority
  if !server.online || authority != server.address then
    (.error (.unsent request.address false), server)
  else
    let scripted := server.script.head?.getD Scripted.exhausted
    (scripted.reply request.address timeout,
      { server with script := server.script.drop 1, requests := server.requests ++ [request] })

/-- Make a request and follow where the replies point. -/
def follow (timeout : Option Time.Span) : (hops : Nat) → Request → Server →
    Except Fault Reply × Server
  | hops, request, server =>
      match server.exchange timeout request with
      | (.error fault, server) => (.error fault, server)
      | (.ok reply, server) =>
          match reply.location? request.address with
          | none => (.ok reply, server)
          | some address =>
              match hops with
              | 0 => (.error (.astray request.address), server)
              | hops + 1 => follow timeout hops (request.follow reply.status address) server

/-- Make the request that could be made, within a time. -/
def send (server : Server) (timeout : Option Time.Span) (request : Except Fault Request) :
    Except Fault Reply × Server :=
  match request with
  | .error fault => (.error fault, server)
  | .ok request => follow timeout redirectLimit request server

end Server

end Scribe.Http
