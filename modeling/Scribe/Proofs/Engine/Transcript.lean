import Scribe.Engine.Transcript
import Scribe.Proofs.Text.Words

/-!
# The normal form of a transcript

The text of a transcript has the words of the text that was heard, and nothing else but one space
between neighbours.  So it keeps the words and forgets all about the gaps: texts come to the same
normal form exactly if they have the same words, and a normal form is its own.
-/

namespace Scribe.Transcript

open Scribe.Text

/-- A text shows words in their order, with one space between neighbours and no blank around
them. -/
structure Shows (shown : String) (found : List (List Char)) : Prop where
  written : shown.toList = [' '].intercalate found
  parted : ∀ parts, Parted shown.toList parts ↔ parts = found
  first : ∀ c ∈ shown.toList.head?, isBlank c = false
  last : ∀ c ∈ shown.toList.getLast?, isBlank c = false

theorem shows_joinWords {found : List (List Char)} (each : ∀ word ∈ found, IsWord word) :
    Shows (String.ofList (joinWords found)) found := by
  constructor
  · rw [String.toList_ofList, joinWords_eq_intercalate]
  · intro parts
    rw [String.toList_ofList, parted_iff, words_joinWords each]
  · rw [String.toList_ofList]
    exact head?_joinWords each
  · rw [String.toList_ofList]
    exact getLast?_joinWords each

variable {text shown : String}

/-- What the normal form is, by the words of the text. -/
theorem normalize_eq (text : String) :
    normalize text =
      if words text.toList = [] then none
      else some (String.ofList (joinWords (words text.toList))) := by
  unfold normalize
  cases words text.toList <;> rfl

theorem normalize_eq_none_iff : normalize text = none ↔ words text.toList = [] := by
  rw [normalize_eq, ite_eq_left_iff]
  simp

theorem normalize_eq_some_iff : normalize text = some shown ↔
    words text.toList ≠ [] ∧ shown = String.ofList (joinWords (words text.toList)) := by
  rw [normalize_eq]
  split
  next none => simp [none]
  next nonempty =>
    rw [Option.some.injEq, and_iff_right nonempty]
    exact eq_comm

/-- The normal form shows the words of the text. -/
theorem shows_normalize (normal : normalize text = some shown) :
    Shows shown (words text.toList) := by
  obtain ⟨_, rfl⟩ := normalize_eq_some_iff.mp normal
  exact shows_joinWords fun word member => isWord_of_mem_words member

theorem words_normalize (normal : normalize text = some shown) :
    words shown.toList = words text.toList :=
  ((shows_normalize normal).parted _).mp (parted_words _)

/-- Texts have the same normal form just if they have the same words. -/
theorem normalize_eq_iff {other : String} :
    normalize other = normalize text ↔ words other.toList = words text.toList := by
  constructor
  · intro same
    cases normal : normalize text with
    | none =>
        rw [normal] at same
        rw [normalize_eq_none_iff.mp same, normalize_eq_none_iff.mp normal]
    | some shown =>
        rw [normal] at same
        rw [← words_normalize same, words_normalize normal]
  · intro same
    rw [normalize_eq, normalize_eq, same]

theorem normalize_normalize (normal : normalize text = some shown) :
    normalize shown = some shown := by
  rw [normalize_eq_iff.mpr (words_normalize normal), normal]

/-- A text of blanks alone makes a transcript without text; of any other text the transcript has
the words, in their order and with one space between neighbours.  Texts with the same words, and
no others, make the same text, which is its own normal form. -/
theorem text_normalized (text : String) (language : Option String) (confidence : Option Float) :
    let made := (Transcript.of text language confidence).text
    (made = none ↔ ∀ c ∈ text.toList, isBlank c = true) ∧
    (∃ found, (∀ parts, Parted text.toList parts ↔ parts = found) ∧
      ∀ shown ∈ made, Shows shown found) ∧
    (∀ other, (Transcript.of other language confidence).text = made ↔
      ∀ parts, Parted other.toList parts ↔ Parted text.toList parts) ∧
    ∀ shown ∈ made, (Transcript.of shown language confidence).text = some shown := by
  refine ⟨?_, ⟨words text.toList, fun parts => parted_iff, fun shown => shows_normalize⟩, ?_,
    fun shown => normalize_normalize⟩
  · exact normalize_eq_none_iff.trans words_eq_nil_iff
  · intro other
    refine normalize_eq_iff.trans ⟨fun same parts => ?_, fun same => ?_⟩
    · rw [parted_iff, parted_iff, same]
    · exact parted_iff.mp ((same _).mp (parted_words _))

end Scribe.Transcript
