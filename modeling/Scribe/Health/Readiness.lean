/-!
# Readiness

A worker begins to set up its engines, and is then ready with one of them or has failed.
A failure keeps the engine that was named last.
-/

namespace Scribe.Health

/-- How far the setting up has come. -/
inductive Lifecycle
  | unset
  | initializing
  | ready
  | failed
deriving DecidableEq, Repr

/-- The name of a lifecycle. -/
def Lifecycle.name : Lifecycle → String
  | .unset => "unset"
  | .initializing => "initializing"
  | .ready => "ready"
  | .failed => "failed"

/-- How far the setting up has come, and with which engine. -/
structure Readiness where
  lifecycle : Lifecycle := .unset
  engine : String := "unknown"
deriving DecidableEq, Repr

namespace Readiness

/-- Begin to set up an engine. -/
def begin (_ : Readiness) (engine : String) : Readiness :=
  ⟨.initializing, engine⟩

/-- Be ready with an engine. -/
def succeed (_ : Readiness) (engine : String) : Readiness :=
  ⟨.ready, engine⟩

/-- Have failed. -/
def fail (readiness : Readiness) : Readiness :=
  { readiness with lifecycle := .failed }

/-- Whether the worker is ready. -/
def isReady (readiness : Readiness) : Bool :=
  readiness.lifecycle == .ready

@[simp] theorem isReady_iff (readiness : Readiness) :
    readiness.isReady = true ↔ readiness.lifecycle = .ready := by
  simp [isReady]

end Readiness

end Scribe.Health
