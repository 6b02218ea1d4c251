import Scribe.Broker.Error
import Scribe.Failure.Basic
import Scribe.Text.Quoted

/-!
# Chains of errors

Errors wrap others. A failure that is met on the way from the outside to the inside
is what the whole chain amounts to; a chain without one is an internal error in the
words of its outermost part.
-/

namespace Scribe

open Scribe.Text

/-- An error with the errors behind it. An input or output error can carry another
error, and then speaks with its words. What fails in the client of a broker is a broker
error with that failure behind it. -/
inductive ErrorChain
  | failure (failure : Failure)
  | broker (error : Broker.Error)
  | client (inner : ErrorChain)
  | decoding (message : String)
  | system (message : String)
  | carrier (inner : ErrorChain)
  | leaf (message : String)
  | wrapper (message : String) (source : ErrorChain)
deriving Repr

namespace ErrorChain

/-- The words of the outermost error. -/
def message : ErrorChain → String
  | .failure found => found.display
  | .broker error => error.message
  | .client inner => (Broker.Error.server inner.message).message
  | .decoding message => message
  | .system message => message
  | .carrier inner => inner.message
  | .leaf message => message
  | .wrapper message _ => message

/-- The first failure on the way inward. -/
def failure? : ErrorChain → Option Failure
  | .failure found => some found
  | .client inner => inner.failure?
  | .carrier inner => inner.failure?
  | .wrapper _ source => source.failure?
  | _ => none

/-- The failure that a chain amounts to. -/
def classify (chain : ErrorChain) : Failure :=
  chain.failure?.getD (.of .internalError chain.message)

/-- The failure that an error amounts to where its kind is known: a payload that
cannot be decoded is invalid, anything else is classified. -/
def convert : ErrorChain → Failure
  | .decoding message => .of .invalidPayload message
  | chain => chain.classify

end ErrorChain

/-- How a task ended without a result. -/
inductive TaskEnd
  | panicked (message : String)
  | cancelled
deriving DecidableEq, Repr

/-- The wording for a task with a name. -/
def TaskEnd.message (name : String) : TaskEnd → String
  | .panicked message => "task " ++ name ++ " panicked with message " ++ quote message
  | .cancelled => "task " ++ name ++ " was cancelled"

end Scribe
