import Scribe.Failure.Code

/-!
# Failures

A failure is a code with a message and the decision whether another attempt may
help. Unless the place of the failure knows better, the code decides.
-/

namespace Scribe

/-- A failure of a job. -/
structure Failure where
  code : FailureCode
  message : String
  retryable : Bool
deriving DecidableEq, Repr

namespace Failure

/-- A failure whose code decides about another attempt. -/
def of (code : FailureCode) (message : String) : Failure :=
  ⟨code, message, code.retryableByDefault⟩

/-- The failure with its decision about another attempt replaced. -/
def withRetryable (failure : Failure) (retryable : Bool) : Failure :=
  { failure with retryable }

/-- A failure in a line of text. -/
def display (failure : Failure) : String :=
  failure.code.name ++ ": " ++ failure.message

end Failure

/-- A failure with the stage it happened in. -/
structure StageFailure where
  stage : Stage
  failure : Failure
deriving DecidableEq, Repr

end Scribe
