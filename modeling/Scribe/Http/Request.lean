import Scribe.Url.Basic

/-!
# Requests to servers

A request is made from the text of an address. It fails before anything is sent if the
text is no address, or if the address cannot be asked over HTTP. A user named in the
address does not appear in it any more.
-/

namespace Scribe.Http

/-- What is wanted of a server. -/
inductive Verb
  | get
  | post
deriving DecidableEq, Repr

/-- The name of a verb. -/
def Verb.name : Verb → String
  | .get => "GET"
  | .post => "POST"

/-- A part of a form. -/
structure Part where
  name : String
  fileName : Option String := none
  contentType : Option String := none
  content : ByteArray

/-- What a request carries. -/
inductive Content
  | empty
  | bytes (contentType : String) (content : ByteArray)
  | form (parts : List Part)

/-- A request. -/
structure Request where
  verb : Verb
  address : Url
  content : Content := .empty

/-- What can go wrong between a request and the end of its reply. A reply that does not
come or end in time is late. -/
inductive Fault
  | noAddress
  | notHttp (address : Url)
  | unsent (address : Url) (late : Bool)
  | astray (address : Url)
  | broken (late : Bool)
deriving DecidableEq, Repr

namespace Fault

/-- The wording of a fault. -/
def message : Fault → String
  | .noAddress => "builder error"
  | .notHttp address => "builder error for url (" ++ address.render ++ ")"
  | .unsent address _ => "error sending request for url (" ++ address.render ++ ")"
  | .astray address => "error following redirect for url (" ++ address.render ++ ")"
  | .broken _ => "error decoding response body"

/-- Whether the time was up. -/
def isLate : Fault → Bool
  | .unsent _ late => late
  | .broken late => late
  | _ => false

end Fault

/-- Signs that a host name may hold but a request may not. -/
def unsendable : List Char := ['"', Char.ofNat 96, '\x7b', '\x7d']

/-- An address in a request has at most this many bytes. -/
def addressLimit : Nat := 65534

/-- Whether an address can be asked over HTTP. -/
def canAsk (address : Url) : Bool :=
  (address.scheme == "http" || address.scheme == "https") &&
    !(address.renderAuthority.any fun c => unsendable.contains c) &&
    address.render.utf8ByteSize ≤ addressLimit

/-- A request to the address that a text names, with fields behind its query. -/
def Request.make (verb : Verb) (text : String) (fields : List (String × String))
    (content : Content) : Except Fault Request :=
  match Url.parse text with
  | .error _ => .error .noAddress
  | .ok address =>
      if !address.hasHost then .error (.notHttp address)
      else
        let address := address.withoutUser.withFields fields
        if canAsk address then .ok { verb, address, content } else .error (.notHttp address)

end Scribe.Http
