import Scribe.Text.Numeral
import Scribe.Url.Basic

/-!
# Addresses of stream servers

The address of a server names host and port, and perhaps a user, a database and the
version of the protocol. Encrypted connections are not supported.
-/

namespace Scribe.Stream

open Scribe.Text

/-- Why an address cannot be used. -/
inductive AddressFault
  | unreadable
  | noHost
  | encrypted
  | database
  | user
  | password
  | protocol (version : String)
deriving DecidableEq, Repr

namespace AddressFault

/-- What is wrong. -/
def reason : AddressFault → String
  | .unreadable => "Redis URL did not parse"
  | .noHost => "Missing hostname"
  | .encrypted => "can't connect with TLS, the feature is not enabled"
  | .database => "Invalid database number"
  | .user => "Username is not valid UTF-8 string"
  | .password => "Password is not valid UTF-8 string"
  | .protocol _ => "Invalid protocol version"

/-- The wording of a fault. -/
def message (fault : AddressFault) : String :=
  let detail :=
    match fault with
    | .protocol version => ": " ++ version
    | _ => ""
  fault.reason ++ "- InvalidClientConfig" ++ detail

end AddressFault

/-- Where a server is, and what to say to it first. -/
structure Address where
  host : Url.Host
  port : Nat := 6379
  database : Int := 0
  user : Option String := none
  password : Option String := none
deriving DecidableEq, Repr

namespace Address

/-- The port where none is given. -/
def defaultPort : Nat := 6379

/-- The schemes of addresses; the second one of each pair is encrypted. -/
def schemes : List (String × String) := [("redis", "rediss"), ("valkey", "valkeys")]

/-- A text with its encoded bytes put back, if it is text then. -/
def decoded? (part : String) : Option String :=
  ofUtf8? ⟨(Url.decodeBytes part.toUTF8.toList).toArray⟩

/-- The database that a path names. -/
def databaseOf (path : String) : Except AddressFault Int :=
  let strip (text : List Char) : List Char := text.dropWhile (· == '/')
  match (strip (strip path.toList).reverse).reverse with
  | [] => .ok 0
  | digits =>
      match readInteger maxSigned64 digits with
      | .ok database => .ok database
      | .error _ => .error .database

/-- The user in an address. -/
def userOf (address : Url) : Except AddressFault (Option String) :=
  if address.user.isEmpty then .ok none
  else
    match decoded? address.user with
    | some user => .ok (some user)
    | none => .error .user

/-- The password in an address. -/
def passwordOf (address : Url) : Except AddressFault (Option String) :=
  match address.password with
  | none => .ok none
  | some password =>
      match decoded? password with
      | some password => .ok (some password)
      | none => .error .password

/-- The version of the protocol that a query asks for; the last field counts. -/
def checkProtocol (address : Url) : Except AddressFault Unit :=
  let fields := ((address.query.getD "").splitOn "&").map fun field => field.splitOn "="
  let versions := fields.filter fun field => field.head? == some "protocol"
  match versions.getLast? with
  | none => .ok ()
  | some field =>
      let version := String.intercalate "=" (field.drop 1)
      if ["2", "resp2", "3", "resp3"].contains version then .ok () else .error (.protocol version)

/-- Read an address. -/
def parse (text : String) : Except AddressFault Address := do
  let address ← (Url.parse text).mapError fun _ => AddressFault.unreadable
  if !schemes.any fun pair => pair.1 == address.scheme || pair.2 == address.scheme then
    throw .unreadable
  let host ←
    match address.host with
    | none | some (.name "") => throw .noHost
    | some host => pure host
  if schemes.any fun pair => pair.2 == address.scheme then throw .encrypted
  let database ← databaseOf address.path
  let user ← userOf address
  let password ← passwordOf address
  checkProtocol address
  return { host, port := address.port.getD defaultPort, database, user, password }

end Address

end Scribe.Stream
