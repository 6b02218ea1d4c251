import Scribe.Broker.Message

/-!
# Dispositions and outcomes

Handling a message ends in a disposition. Every disposition but one settles the
message for good, so that it may be committed; an unresolved message has to be
handled again.
-/

namespace Scribe.Delivery

open Scribe.Broker

/-- How the handling of a message ended. -/
inductive Disposition
  | completed
  | duplicate
  | retryScheduled
  | deadLettered
  | unresolved
deriving DecidableEq, Repr

namespace Disposition

/-- All dispositions. -/
def all : List Disposition :=
  [.completed, .duplicate, .retryScheduled, .deadLettered, .unresolved]

/-- The name of a disposition. -/
def name : Disposition → String
  | .completed => "completed"
  | .duplicate => "duplicate"
  | .retryScheduled => "retry_scheduled"
  | .deadLettered => "dead_lettered"
  | .unresolved => "unresolved"

/-- The disposition with a name. -/
def ofName? (name : String) : Option Disposition :=
  all.find? fun disposition => disposition.name == name

/-- Whether the message may be committed. -/
def settles : Disposition → Bool
  | .unresolved => false
  | _ => true

end Disposition

/-- A message with the disposition it came to. -/
structure Outcome where
  message : Message
  disposition : Disposition
deriving DecidableEq

/-- Whether the message of an outcome may be committed. -/
def Outcome.commits (outcome : Outcome) : Bool :=
  outcome.disposition.settles

end Scribe.Delivery
