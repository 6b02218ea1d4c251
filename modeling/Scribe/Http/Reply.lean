import Scribe.Http.Request

/-!
# Replies of servers

A reply has a status and headers, and a body that comes in pieces. It may break off before
its end.
-/

namespace Scribe.Http

/-- A reply. -/
structure Reply where
  status : Nat
  headers : List (String × ByteArray) := []
  /-- The length of the body, where the server has promised one. -/
  declared : Option Nat := none
  chunks : List ByteArray := []
  /-- Why the body breaks off after the pieces, if it does. -/
  breaksOff : Option Fault := none

namespace Reply

/-- Whether a request was granted. -/
def isSuccess (reply : Reply) : Bool :=
  200 ≤ reply.status && reply.status < 300

/-- Whether the client was wrong. -/
def isClientError (reply : Reply) : Bool :=
  400 ≤ reply.status && reply.status < 500

/-- Whether the server has failed. -/
def isServerError (reply : Reply) : Bool :=
  500 ≤ reply.status && reply.status < 600

/-- The first value of a header. -/
def header? (reply : Reply) (name : String) : Option ByteArray :=
  (reply.headers.find? fun header => header.1.map Char.toLower == name).map Prod.snd

/-- The kind of content, if it is written in visible characters. -/
def contentType? (reply : Reply) : Option String := do
  let value ← reply.header? "content-type"
  if value.toList.all fun byte => byte == 9 || (32 ≤ byte && byte < 127) then
    return String.ofList (value.toList.map fun byte => Char.ofNat byte.toNat)
  else none

/-- The whole body. -/
def body (reply : Reply) : Except Fault ByteArray :=
  match reply.breaksOff with
  | some fault => .error fault
  | none => .ok (reply.chunks.foldl (· ++ ·) ByteArray.empty)

end Reply

end Scribe.Http
