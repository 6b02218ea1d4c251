import Scribe.Config.Settings
import Scribe.Proofs.Decimal.Reading
import Scribe.Proofs.Time.Seconds

/-!
# Checks of variables

Each variable that can be refused has a rule of its own, which is said here without the reader
that enforces it.  A step that takes something from an environment is judged by some checks when
it goes on only if they pass, and stops only at a fault that names a variable which fails its
own; steps in a row are judged by all of their checks.
-/

namespace Scribe.Config

open Scribe.Decimal
open Scribe.Text

/-! ## Rules -/

/-- What the text of a variable has to be. -/
inductive Rule
  /-- Digits, perhaps after a plus sign, of a number up to a limit. -/
  | natural (limit : Nat)
  /-- A decimal. -/
  | float
  /-- A decimal that is a span of seconds once it is raised to the shortest pause. -/
  | pause
  /-- The address of a stream server. -/
  | address
deriving DecidableEq

/-- Whether a text is what a rule asks for. -/
def Rule.Accepts : Rule → String → Prop
  | .natural limit, text =>
      ∃ digits, (trimChars text.toList = digits ∨ trimChars text.toList = '+' :: digits) ∧
        IsNumeral digits ∧ decimalFrom 0 digits ≤ limit
  | .float, text => IsDecimal (trimChars text.toList)
  | .pause, text =>
      ∃ value number, Decimal.read (trimChars text.toList) = .ok value ∧
        Denotes (Settings.raisePause value) number ∧ number < 2 ^ 64
  | .address, text => "redis://".toList <+: text.toList ∨ "rediss://".toList <+: text.toList

/-- A variable with its rule. -/
structure Check where
  name : String
  rule : Rule
deriving DecidableEq

namespace Check

/-- The variable is not set, or valid. -/
def Passes (check : Check) (environment : Environment) : Prop :=
  ∀ text, environment.get? check.name = some text → check.rule.Accepts text

/-- The variable is set, and not valid. -/
def Fails (check : Check) (environment : Environment) : Prop :=
  ∃ text, environment.get? check.name = some text ∧ ¬check.rule.Accepts text

theorem not_passes_of_fails {check : Check} {environment : Environment}
    (fails : check.Fails environment) : ¬check.Passes environment := by
  obtain ⟨text, set, invalid⟩ := fails
  exact fun passes => invalid (passes text set)

end Check

/-! ## Judged steps -/

/-- A step goes on only if its checks pass, and blames only what fails its check. -/
structure Judges (environment : Environment) {α : Type} (step : Except ConfigFault α)
    (checks : List Check) : Prop where
  passes : ∀ value, step = .ok value → ∀ check ∈ checks, check.Passes environment
  blames : ∀ fault, step = .error fault → ∃ check ∈ checks, ∃ details,
    fault = .invalid check.name details ∧ check.Fails environment

namespace Judges

variable {environment : Environment} {α β : Type}

theorem ok (value : α) : Judges environment (.ok value) [] := by
  constructor
  · rintro _ - check ⟨⟩
  · rintro _ ⟨⟩

/-- A step with one check, and those after it. -/
theorem cons {first : Except ConfigFault α} {next : α → Except ConfigFault β} {check : Check}
    {checks : List Check} (here : Judges environment first [check])
    (later : ∀ value, first = .ok value → Judges environment (next value) checks) :
    Judges environment (first >>= next) (check :: checks) := by
  cases first with
  | error fault =>
      constructor
      · rintro _ ⟨⟩
      · rintro _ ⟨⟩
        obtain ⟨_, member, blamed⟩ := here.blames fault rfl
        exact ⟨_, List.mem_cons.mpr (Or.inl (List.mem_singleton.mp member)), blamed⟩
  | ok value =>
      have rest := later value rfl
      constructor
      · intro result done
        exact List.forall_mem_cons.mpr
          ⟨here.passes value rfl check List.mem_cons_self, rest.passes result done⟩
      · intro fault stopped
        obtain ⟨blamed, member, fails⟩ := rest.blames fault stopped
        exact ⟨blamed, List.mem_cons_of_mem _ member, fails⟩

/-- A step is judged by one check if it goes on without the variable and with a valid text, and
refuses every other text in the name of the variable. -/
theorem single {step : Except ConfigFault α} {check : Check}
    (unset : environment.get? check.name = none → ∃ value, step = .ok value)
    (accepts : ∀ text, environment.get? check.name = some text → check.rule.Accepts text →
      ∃ value, step = .ok value)
    (refuses : ∀ text, environment.get? check.name = some text → ¬check.rule.Accepts text →
      ∃ details, step = .error (.invalid check.name details)) :
    Judges environment step [check] := by
  constructor
  · rintro value done _ member text set
    obtain rfl := List.mem_singleton.mp member
    by_contra invalid
    obtain ⟨details, stopped⟩ := refuses text set invalid
    rw [done] at stopped
    cases stopped
  · rintro fault stopped
    have fails : ¬∃ value, step = .ok value := by
      rintro ⟨value, done⟩
      rw [stopped] at done
      cases done
    cases set : environment.get? check.name with
    | none => exact absurd (unset set) fails
    | some text =>
        have invalid : ¬check.rule.Accepts text := fun accepted => fails (accepts text set accepted)
        obtain ⟨details, blamed⟩ := refuses text set invalid
        rw [stopped] at blamed
        exact ⟨check, List.mem_singleton_self _, details, Except.error.inj blamed, text, set,
          invalid⟩

/-- A step succeeds exactly if all of its checks pass. -/
theorem ok_iff {step : Except ConfigFault α} {checks : List Check}
    (judged : Judges environment step checks) :
    (∃ value, step = .ok value) ↔ ∀ check ∈ checks, check.Passes environment := by
  constructor
  · rintro ⟨value, done⟩
    exact judged.passes value done
  · intro passes
    cases step with
    | ok value => exact ⟨value, rfl⟩
    | error fault =>
        obtain ⟨check, member, _, _, fails⟩ := judged.blames fault rfl
        exact absurd (passes check member) (Check.not_passes_of_fails fails)

end Judges

/-! ## Steps -/

section Reading

variable {environment : Environment} {name : String} {α : Type} {reader : ValueReader α}

theorem read_of_unset (fallback : α) (unset : environment.get? name = none) :
    environment.read name reader fallback = .ok fallback := by
  rw [Environment.read, unset]

theorem read_ok_of_set {text : String} {fallback value : α}
    (set : environment.get? name = some text) :
    environment.read name reader fallback = .ok value ↔
      reader (trimChars text.toList) = .ok value := by
  rw [Environment.read, set]
  simp only
  cases reader (trimChars text.toList) <;> simp

/-- A value is read under the rule that its reader enforces. -/
theorem judges_read {rule : Rule}
    (enforces : ∀ text : String,
      (∃ value, reader (trimChars text.toList) = .ok value) ↔ rule.Accepts text)
    (fallback : α) :
    Judges environment (environment.read name reader fallback) [⟨name, rule⟩] := by
  refine .single (fun unset => ⟨fallback, read_of_unset fallback unset⟩) ?_ ?_
  · intro text set accepted
    obtain ⟨value, read⟩ := (enforces text).mpr accepted
    exact ⟨value, (read_ok_of_set set).mpr read⟩
  · intro text set refused
    rw [Environment.read, set]
    simp only
    cases outcome : reader (trimChars text.toList) with
    | ok value => exact absurd ((enforces text).mp ⟨value, outcome⟩) refused
    | error details => exact ⟨details, rfl⟩

end Reading

theorem natural_enforces (limit : Nat) (text : String) :
    (∃ value, ValueReader.natural limit (trimChars text.toList) = .ok value) ↔
      (Rule.natural limit).Accepts text := by
  have known : (∃ value, ValueReader.natural limit (trimChars text.toList) = .ok value) ↔
      ∃ value, readNatural limit (trimChars text.toList) = .ok value := by
    simp only [ValueReader.natural]
    cases readNatural limit (trimChars text.toList) <;> simp
  simp only [known, readNatural_ok_iff, Rule.Accepts]
  constructor
  · rintro ⟨_, digits, written, numeral, rfl, fits⟩
    exact ⟨digits, written, numeral, fits⟩
  · rintro ⟨digits, written, numeral, fits⟩
    exact ⟨_, digits, written, numeral, rfl, fits⟩

theorem float_ok_iff (text : List Char) (value : Float) :
    ValueReader.float text = .ok value ↔ Decimal.read text = .ok value := by
  simp only [ValueReader.float]
  cases Decimal.read text <;> simp

theorem float_enforces (text : String) :
    (∃ value, ValueReader.float (trimChars text.toList) = .ok value) ↔
      Rule.float.Accepts text := by
  simp only [float_ok_iff]
  exact read_ok_iff _

variable (environment : Environment)

theorem judges_address :
    Judges environment environment.streamAddress [⟨"REDIS_URL", .address⟩] := by
  have prefixed : ∀ address : String,
      (address.startsWith "redis://" || address.startsWith "rediss://") = true ↔
        Rule.address.Accepts address := by
    intro address
    rw [Bool.or_eq_true, String.startsWith_string_iff, String.startsWith_string_iff]
    rfl
  rw [Environment.streamAddress, Environment.textOr]
  refine .single ?_ ?_ ?_
  · intro unset
    have known : ("redis://127.0.0.1:6379".startsWith "redis://" ||
      "redis://127.0.0.1:6379".startsWith "rediss://") = true := by decide +kernel
    rw [unset, Option.getD_none, if_pos known]
    exact ⟨_, rfl⟩
  · intro text set accepted
    rw [set, Option.getD_some, if_pos ((prefixed text).mpr accepted)]
    exact ⟨_, rfl⟩
  · intro text set refused
    rw [set, Option.getD_some, if_neg fun accepted => refused ((prefixed text).mp accepted)]
    exact ⟨_, rfl⟩

theorem pauseSpan_eq_error {pause : Float}
    (none : ¬∃ span, Time.Span.ofFloat (Settings.raisePause pause) = .ok span) :
    ∃ details, Settings.pauseSpan pause = .error (.invalid Settings.pauseVariable details) := by
  rw [Settings.pauseSpan]
  cases converted : Time.Span.ofFloat (Settings.raisePause pause) with
  | ok span => exact absurd ⟨span, converted⟩ none
  | error fault => exact ⟨_, rfl⟩

theorem pauseSpan_eq_ok {pause : Float} {span : Time.Span} :
    Settings.pauseSpan pause = .ok span ↔
      Time.Span.ofFloat (Settings.raisePause pause) = .ok span := by
  rw [Settings.pauseSpan]
  cases Time.Span.ofFloat (Settings.raisePause pause) <;> simp

/-- The pause is judged by the number that was read for it. -/
theorem judges_pause {fallback pause : Float}
    (always : ∃ span, Time.Span.ofFloat (Settings.raisePause fallback) = .ok span)
    (read : environment.read Settings.pauseVariable .float fallback = .ok pause) :
    Judges environment (Settings.pauseSpan pause) [⟨Settings.pauseVariable, .pause⟩] := by
  refine .single ?_ ?_ ?_
  · intro unset
    obtain rfl := Except.ok.inj ((read_of_unset fallback unset).symm.trans read)
    simpa only [pauseSpan_eq_ok] using always
  · rintro text set ⟨value, number, written, denotes, small⟩
    have same := (float_ok_iff _ _).mp ((read_ok_of_set set).mp read)
    obtain rfl := Except.ok.inj (same.symm.trans written)
    simpa only [pauseSpan_eq_ok] using (Time.ofFloat_ok_iff _).mpr ⟨number, denotes, small⟩
  · intro text set refused
    refine pauseSpan_eq_error fun converted => refused ?_
    obtain ⟨number, denotes, small⟩ := (Time.ofFloat_ok_iff _).mp converted
    exact ⟨pause, number, (float_ok_iff _ _).mp ((read_ok_of_set set).mp read), denotes, small⟩

/-! ## The shortest pause -/

theorem denotes_shortestPause : Denotes Settings.shortestPause (scaled 7205759403792794 (-56)) :=
  denotes_of_parts ⟨by decide, by decide, by decide, by decide, Or.inl (by decide)⟩ rfl

theorem shortest_le_raisePause {seconds : Float} {number : ℚ}
    (denotes : Denotes (Settings.raisePause seconds) number) : 1 / 10 ≤ number := by
  have tenth : 1 / 10 ≤ scaled 7205759403792794 (-56) := by norm_num [scaled]
  refine tenth.trans ?_
  by_cases greater : seconds > Settings.shortestPause
  · rw [Settings.raisePause, if_pos greater] at denotes
    exact ((lt_iff denotes_shortestPause denotes).mp greater).le
  · rw [Settings.raisePause, if_neg greater] at denotes
    exact (le_iff denotes_shortestPause denotes).mp (by decide)

/-- No pause is shorter than a tenth of a second. -/
theorem shortest_le_pauseSpan {seconds : Float} {span : Time.Span}
    (converted : Settings.pauseSpan seconds = .ok span) : Time.Span.ofMillis 100 ≤ span := by
  rw [pauseSpan_eq_ok] at converted
  obtain ⟨number, denotes, small⟩ := (Time.ofFloat_ok_iff _).mp ⟨span, converted⟩
  obtain ⟨other, same, near, -⟩ := Time.ofFloat_of_lt denotes small
  obtain rfl := Except.ok.inj (converted.symm.trans same)
  have long := shortest_le_raisePause denotes
  have above : (100000000 : ℚ) < (span.nanos + 1 : Nat) := by
    have low := (abs_le.mp near).1
    push_cast
    linarith
  have whole : 100000000 < span.nanos + 1 := by exact_mod_cast above
  exact Nat.le_of_lt_succ whole

end Scribe.Config
