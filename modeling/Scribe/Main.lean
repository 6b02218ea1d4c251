import Scribe.Worker.Outside

/-!
# The worker as a program

Starts a worker in the environment of the process. Without a way to reach servers it ends
at the first of them that it needs, and before that at a variable that cannot be read. The
report goes to the error output, from the step that failed to the cause.
-/

namespace Scribe.Main

open Scribe.Config

/-- The variables of the process that settings come from. -/
def processEnvironment : IO Environment := do
  let names := Settings.checkedVariables ++ Settings.freeVariables
  let bindings ← names.filterMapM fun name => do
    return (← IO.getEnv name).map fun text => (name, text.toUTF8)
  return ⟨bindings⟩

/-- A report as numbered lines. -/
def renderReport (chain : List String) : String :=
  "Error:" ++ String.join (chain.zipIdx.map fun (line, index) =>
    "\n   " ++ Text.decimal index ++ ": " ++ line)

/-- An outside without a network. -/
def offline : Worker.Outside where
  site := { server := { address := "", online := false } }
  stream := { outOfReach := some 101 }

end Scribe.Main

open Scribe Scribe.Main

/-- Start a worker, and report why it does not start. -/
def main : IO UInt32 := do
  let environment ← processEnvironment
  match (offline.start environment "worker").1.1 with
  | .ok _ => return 0
  | .error fault => do
      IO.eprintln (renderReport fault.chain)
      return 1
