import Scribe.Failure.Chain

/-!
# The way inward through an error

From an error a step leads to the error that it carries, or else to the one that it names as its
source.  An input or output error that carries another names the source of that one, so that by
sources alone a failure that is carried would be passed by.

The way inward comes to an end.  The first failure on it is what the error amounts to, whatever
the error is wrapped in; and without one the error counts as an internal error that may pass.
-/

namespace Scribe.ErrorChain

/-! ## Steps inward -/

/-- The failure that an error is itself. -/
def failed? : ErrorChain → Option Failure
  | .failure found => some found
  | _ => none

/-- The error that an input or output error carries. -/
def carried? : ErrorChain → Option ErrorChain
  | .carrier inner => some inner
  | _ => none

/-- The error that an error names as its source. -/
def source? : ErrorChain → Option ErrorChain
  | .carrier inner => inner.source?
  | .client inner => some inner
  | .wrapper _ source => some source
  | _ => none

/-- The next error on the way inward. -/
def inward? (error : ErrorChain) : Option ErrorChain :=
  error.carried?.or error.source?

/-- All errors that are met on the way inward, the outermost first. -/
inductive Way : ErrorChain → List ErrorChain → Prop
  | last {error : ErrorChain} (innermost : error.inward? = none) : Way error [error]
  | step {error inner : ErrorChain} {rest : List ErrorChain} (inward : error.inward? = some inner)
      (later : Way inner rest) : Way error (error :: rest)

/-- From every error the way inward comes to an end. -/
theorem exists_way (error : ErrorChain) : ∃ met, Way error met := by
  have around {outer inner : ErrorChain} (inward : outer.inward? = some inner)
      (onward : ∃ met, Way inner met) : ∃ met, Way outer met :=
    onward.imp' (outer :: ·) fun _ later => .step inward later
  induction error with
  | failure found => exact ⟨_, .last rfl⟩
  | broker error => exact ⟨_, .last rfl⟩
  | client inner ih => exact around rfl ih
  | decoding message => exact ⟨_, .last rfl⟩
  | system message => exact ⟨_, .last rfl⟩
  | carrier inner ih => exact around rfl ih
  | leaf message => exact ⟨_, .last rfl⟩
  | wrapper message source ih => exact around rfl ih

theorem Way.unique {error : ErrorChain} {met others : List ErrorChain} (way : Way error met)
    (other : Way error others) : others = met := by
  induction way generalizing others with
  | last innermost =>
      cases other with
      | last => rfl
      | step inward => cases innermost.symm.trans inward
  | step inward later ih =>
      cases other with
      | last innermost => cases innermost.symm.trans inward
      | step same other =>
          cases inward.symm.trans same
          rw [ih other]

/-! ## The first failure -/

/-- The search for a failure looks at an error and then goes one step inward. -/
theorem failure?_eq (error : ErrorChain) :
    error.failure? = error.failed?.or (error.inward?.bind failure?) := by
  cases error <;> rfl

theorem Way.failure? {error : ErrorChain} {met : List ErrorChain} (way : Way error met) :
    error.failure? = met.findSome? failed? := by
  induction way with
  | @last error innermost =>
      rw [failure?_eq, innermost, List.findSome?_cons]
      cases error.failed? <;> rfl
  | @step error inner rest inward later ih =>
      rw [failure?_eq, inward, Option.bind_some, ih, List.findSome?_cons]
      cases error.failed? <;> rfl

theorem Way.failure?_of_first {error : ErrorChain} {before after : List ErrorChain}
    {found : Failure} (way : Way error (before ++ .failure found :: after))
    (passed : ∀ outer ∈ before, outer.failed? = none) : error.failure? = some found := by
  have none : before.findSome? failed? = none := List.findSome?_eq_none_iff.mpr passed
  rw [way.failure?, List.findSome?_append, none]
  rfl

/-- A failure that is met is found, unless another one is met before it. -/
theorem Way.exists_failure? {error : ErrorChain} {met : List ErrorChain} {found : Failure}
    (way : Way error met) (member : .failure found ∈ met) :
    ∃ first, error.failure? = some first := by
  rw [way.failure?]
  exact Option.isSome_iff_exists.mp (List.findSome?_isSome_iff.mpr ⟨_, member, rfl⟩)

/-! ## Wrapping -/

/-- What an error can be wrapped in. -/
inductive Layer
  | carrier
  | client
  | wrapper (message : String)

/-- An error in a layer. -/
def Layer.around : Layer → ErrorChain → ErrorChain
  | .carrier, inner => .carrier inner
  | .client, inner => .client inner
  | .wrapper message, inner => .wrapper message inner

/-- From a layer a step leads to what is wrapped in it. -/
theorem Layer.inward?_around (layer : Layer) (inner : ErrorChain) :
    (layer.around inner).inward? = some inner := by
  cases layer <;> rfl

theorem Layer.failure?_around (layer : Layer) (inner : ErrorChain) :
    (layer.around inner).failure? = inner.failure? := by
  have other : (layer.around inner).failed? = none := by cases layer <;> rfl
  rw [failure?_eq, other, layer.inward?_around]
  rfl

/-- An error in layers, the outermost first. -/
def wrap (layers : List Layer) (error : ErrorChain) : ErrorChain :=
  layers.foldr Layer.around error

theorem failure?_wrap (layers : List Layer) (error : ErrorChain) :
    (wrap layers error).failure? = error.failure? := by
  induction layers with
  | nil => rfl
  | cons layer rest ih => exact (layer.failure?_around _).trans ih

/-! ## What an error amounts to -/

theorem classify_of_failure? {error : ErrorChain} {found : Failure}
    (first : error.failure? = some found) : error.classify = found := by
  rw [classify, first]
  rfl

/-- Whether an error comes from input or output. -/
def isInputOutput : ErrorChain → Bool
  | .system _ | .carrier _ => true
  | _ => false

/-- Whether an error comes from the broker. -/
def isBroker : ErrorChain → Bool
  | .broker _ | .client _ => true
  | _ => false

theorem convert_eq_classify {error : ErrorChain}
    (kind : error.isInputOutput = true ∨ error.isBroker = true) :
    error.convert = error.classify := by
  cases error with
  | decoding message => rcases kind with input | broker <;> contradiction
  | _ => rfl

/-- What an error amounts to. -/
structure Classified (error : ErrorChain) : Prop where
  /-- The way inward ends, and there is only one. -/
  ends : ∃ met, Way error met ∧ ∀ others, Way error others → others = met
  /-- The first failure on it counts, as it is. -/
  first : ∀ before found after, Way error (before ++ .failure found :: after) →
    (∀ outer ∈ before, outer.failed? = none) → error.classify = found
  /-- Without one it is an internal error in the words of the outermost part. -/
  unknown : ∀ met, Way error met → (∀ inner ∈ met, inner.failed? = none) →
    error.classify = ⟨.internalError, error.message, true⟩
  /-- What it amounts to amounts to the same again. -/
  again : classify (.failure error.classify) = error.classify
  /-- If a failure is met, nothing that the error is wrapped in makes a difference. -/
  wrapped : ∀ met found layers, Way error met → .failure found ∈ met →
    (wrap layers error).classify = error.classify
  /-- Where the kind of the error is known, it makes none either. -/
  converted : error.isInputOutput = true ∨ error.isBroker = true →
    error.convert = error.classify

/-- An error amounts to the first failure on the way inward. -/
theorem first_failure_counts (error : ErrorChain) : Classified error := by
  constructor
  · obtain ⟨met, way⟩ := exists_way error
    exact ⟨met, way, fun others other => way.unique other⟩
  · intro before found after way passed
    exact classify_of_failure? (way.failure?_of_first passed)
  · intro met way none
    rw [classify, way.failure?, List.findSome?_eq_none_iff.mpr none]
    rfl
  · rfl
  · intro met found layers way member
    obtain ⟨first, here⟩ := way.exists_failure? member
    rw [classify_of_failure? here]
    exact classify_of_failure? ((failure?_wrap layers error).trans here)
  · exact convert_eq_classify

/-- By its source alone the failure in an input or output error is not to be found. -/
example :
    let tooLarge : Failure := .of .audioTooLarge "too big"
    let error : ErrorChain := .wrapper "storing" (.carrier (.failure tooLarge))
    (error.source?.bind source?) = none ∧ error.classify = tooLarge :=
  ⟨rfl, rfl⟩

end Scribe.ErrorChain
