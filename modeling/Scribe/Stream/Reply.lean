import Scribe.Broker.Error
import Scribe.Failure.System
import Scribe.Stream.Address
import Scribe.Text.Numeral
import Scribe.Text.Quoted
import Scribe.Text.Utf8

/-!
# Replies of the stream server

The server answers a command with a value, or refuses it. A value is read as what the
command promises: numbers and texts stand for each other, nothing at all is an empty list,
and any other difference in shape is a fault.
-/

namespace Scribe.Stream

open Scribe.Text

/-- An answer of the server. -/
inductive Reply
  | nil
  | integer (value : Int)
  | bytes (content : ByteArray)
  | status (text : String)
  | list (items : List Reply)
  | refusal (text : String)
deriving Inhabited

/-- Why there is no answer that could be used. -/
inductive Fault
  | address (fault : AddressFault)
  | unreachable (error : Int)
  | refused (text : String)
  | misshapen
deriving DecidableEq, Repr

namespace Fault

/-- What a refusal with a known code is called. -/
def refusalName? : String → Option String
  | "ERR" => some "ResponseError"
  | "EXECABORT" => some "ExecAbort"
  | "LOADING" => some "BusyLoading"
  | "NOSCRIPT" => some "NoScript"
  | "MOVED" => some "Moved"
  | "ASK" => some "Ask"
  | "TRYAGAIN" => some "TryAgain"
  | "CLUSTERDOWN" => some "ClusterDown"
  | "CROSSSLOT" => some "CrossSlot"
  | "MASTERDOWN" => some "MasterDown"
  | "READONLY" => some "ReadOnly"
  | "NOTBUSY" => some "NotBusy"
  | "NOSUB" => some "NoSub"
  | "NOPERM" => some "NoPerm"
  | _ => none

/-- The wording of a refusal: its first word is the code, and the rest says more. -/
def refusalMessage (text : String) : String :=
  let code := String.ofList (text.toList.takeWhile (· != ' '))
  let shown := (refusalName? code).getD (quote code)
  match text.toList.drop code.length with
  | [] => shown
  | _ :: detail => shown ++ ": " ++ String.ofList detail

/-- The wording of a fault. -/
def message : Fault → String
  | .address fault => fault.message
  | .unreachable error => systemError error
  | .refused text => refusalMessage text
  | .misshapen => "Incompatible type"

/-- A fault as a broker error. -/
def toBroker (fault : Fault) : Broker.Error := .server fault.message

/-- Whether a word occurs in a text. -/
def occurs (word : List Char) : List Char → Bool
  | [] => word.isEmpty
  | first :: rest => word.isPrefixOf (first :: rest) || occurs word rest

/-- Whether a fault speaks of something. -/
def mentions (fault : Fault) (word : String) : Bool :=
  occurs word.toList fault.message.toList

end Fault

/-- What is read from an answer. -/
abbrev Read (α : Type) := Except Fault α

namespace Reply

/-- The fault of a value of another shape. -/
def mistaken {α : Type} : Reply → Read α
  | .refusal text => .error (.refused text)
  | _ => .error .misshapen

/-- Text. -/
def text : Reply → Read String
  | .bytes content =>
      match ofUtf8? content with
      | some text => .ok text
      | none => .error .misshapen
  | .status text => .ok text
  | .integer value => .ok (signedDecimal value)
  | other => other.mistaken

/-- Bytes. -/
def content : Reply → Read ByteArray
  | .bytes content => .ok content
  | .nil => .ok ByteArray.empty
  | other => other.mistaken

/-- The number that a text stands for. -/
def numberOf (text : String) : Read Int :=
  match readInteger maxSigned64 text.toList with
  | .ok value => .ok value
  | .error _ => .error .misshapen

/-- A number. -/
def number : Reply → Read Int
  | .integer value => .ok value
  | .status text => numberOf text
  | .bytes content =>
      match ofUtf8? content with
      | some text => numberOf text
      | none => .error .misshapen
  | other => other.mistaken

/-- A list. -/
def items : Reply → Read (List Reply)
  | .list items => .ok items
  | .nil => .ok []
  | other => other.mistaken

/-- Nothing or a value. -/
def optional {α : Type} (read : Reply → Read α) : Reply → Read (Option α)
  | .nil => .ok none
  | other => (read other).map some

/-- A pair, as a list of two. -/
def pair {α β : Type} (left : Reply → Read α) (right : Reply → Read β) : Reply → Read (α × β)
  | .list [first, second] => do return (← left first, ← right second)
  | .list _ => .error .misshapen
  | other => other.mistaken

/-- Whether a value is a list of some length. -/
def isListOf (length : Nat) : Reply → Bool
  | .list items => items.length == length
  | _ => false

/-- Pairs that stand one after another without lists of their own. -/
def flatPairs {α β : Type} (left : Reply → Read α) (right : Reply → Read β) :
    List Reply → Read (List (α × β))
  | [] => .ok []
  | [_] => .error .misshapen
  | first :: second :: rest => do
      let first ← left first
      let second ← right second
      return (first, second) :: (← flatPairs left right rest)

/-- Pairs, each as a list or one after another. -/
def pairs {α β : Type} (left : Reply → Read α) (right : Reply → Read β) (reply : Reply) :
    Read (List (α × β)) := do
  let items ← reply.items
  if items.all (isListOf 2) then items.mapM (pair left right) else flatPairs left right items

end Reply

end Scribe.Stream
