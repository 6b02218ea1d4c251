import Scribe.View.Value

/-!
# Walking through steps

Steps are written as JSON, and each is answered by JSON. What they act on goes from step to
step.
-/

namespace Scribe.Walkthrough

open Scribe.View

/-- Make the steps in order. -/
def walkAll {σ : Type} (step : Json → σ → Json × σ) : List Json → σ → List Json × σ
  | [], state => ([], state)
  | json :: rest, state =>
      let (answer, state) := step json state
      let (answers, state) := walkAll step rest state
      (answer :: answers, state)

/-- Make the steps of a plan. -/
def walk {σ : Type} (plan : Json) (step : Json → σ → Json × σ) (state : σ) : Json × σ :=
  let (answers, state) := walkAll step (plan.itemsAt "steps") state
  (.array answers, state)

/-- The answers to the steps of a plan, and nothing else. -/
def answers {σ : Type} (plan : Json) (step : Json → σ → Json × σ) (state : σ) : Json :=
  object [("steps", (walk plan step state).1)]

end Scribe.Walkthrough
