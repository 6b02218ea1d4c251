import Scribe.Decimal.Reading
import Scribe.Text.Blank
import Scribe.Text.Numeral
import Scribe.Text.Utf8

/-!
# Environments

Settings come from the variables of an environment. A variable whose bytes are no text
counts as one that is not set. A value is trimmed before it is read, and one that cannot
be read is an error that names its variable.
-/

namespace Scribe.Config

open Scribe.Text

/-- Variables with their bytes. -/
structure Environment where
  bindings : List (String × ByteArray) := []

/-- Why something cannot be taken from an environment. -/
inductive ConfigFault
  | missing (name : String)
  | invalid (name details : String)
deriving DecidableEq, Repr

namespace ConfigFault

/-- The variable that a fault names. -/
def subject : ConfigFault → String
  | .missing name => name
  | .invalid name _ => name

/-- The wording of a fault. -/
def message : ConfigFault → String
  | .missing name => "Environment variable '" ++ name ++ "' is required but not set"
  | .invalid name details =>
      "Failed to parse environment variable '" ++ name ++ "': " ++ details

end ConfigFault

/-- A way to read a value from its characters. -/
abbrev ValueReader (α : Type) := List Char → Except String α

namespace ValueReader

/-- A number of at most a limit. -/
def natural (limit : Nat) : ValueReader Nat := fun text =>
  match readNatural limit text with
  | .ok value => .ok value
  | .error fault => .error fault.message

/-- A signed number of 64 bits. -/
def integer : ValueReader Int := fun text =>
  match readInteger maxSigned64 text with
  | .ok value => .ok value
  | .error fault => .error fault.message

/-- A double. -/
def float : ValueReader Float := fun text =>
  match Decimal.read text with
  | .ok value => .ok value
  | .error fault => .error fault.message

/-- One of two words. -/
def bool : ValueReader Bool := fun text =>
  match String.ofList text with
  | "true" => .ok true
  | "false" => .ok false
  | _ => .error "provided string was not `true` or `false`"

/-- A single character. -/
def char : ValueReader Char
  | [] => .error "cannot parse char from empty string"
  | [c] => .ok c
  | _ => .error "too many characters in string"

end ValueReader

/-- What a worker runs in. -/
inductive Deployment
  | development
  | production
deriving DecidableEq, Repr

namespace Deployment

/-- The name of a deployment. -/
def name : Deployment → String
  | .development => "Development"
  | .production => "Production"

end Deployment

namespace Environment

/-- The text of a variable. -/
def get? (environment : Environment) (name : String) : Option String :=
  (environment.bindings.lookup name).bind ofUtf8?

/-- The text of a variable, or a default. -/
def textOr (environment : Environment) (name fallback : String) : String :=
  (environment.get? name).getD fallback

/-- The text of a variable that has to be set. -/
def require (environment : Environment) (name : String) : Except ConfigFault String :=
  match environment.get? name with
  | some text => .ok text
  | none => .error (.missing name)

/-- The value of a variable, or a default. -/
def read {α : Type} (environment : Environment) (name : String) (reader : ValueReader α)
    (fallback : α) : Except ConfigFault α :=
  match environment.get? name with
  | none => .ok fallback
  | some text =>
      match reader (trimChars text.toList) with
      | .ok value => .ok value
      | .error details => .error (.invalid name details)

/-- A text with small letters of ASCII for the capital ones. -/
def lowered (text : List Char) : String :=
  String.ofList (text.map Char.toLower)

/-- Whether a variable is switched on; any word but those that mean so switches it off. -/
def flag (environment : Environment) (name : String) (fallback : Bool) : Bool :=
  match environment.get? name with
  | none => fallback
  | some text => ["1", "true", "yes", "y", "on"].contains (lowered (trimChars text.toList))

/-- What the worker runs in. -/
def deployment (environment : Environment) : Deployment :=
  if lowered (environment.textOr "APP_ENV" "development").toList = "production" then .production
  else .development

/-- The address of the stream server. -/
def streamAddress (environment : Environment) : Except ConfigFault String :=
  let address := environment.textOr "REDIS_URL" "redis://127.0.0.1:6379"
  if address.startsWith "redis://" || address.startsWith "rediss://" then .ok address
  else
    .error (.invalid "REDIS_URL"
      ("expected a redis:// or rediss:// URL, got '" ++ address ++ "'"))

end Environment

end Scribe.Config
