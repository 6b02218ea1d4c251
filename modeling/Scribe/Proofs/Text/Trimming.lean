import Mathlib.Data.List.DropRight
import Scribe.Text.Blank

/-!
# Trimmed texts

What is left of a text without the blanks around it stands between two gaps and has no blank at
either end.  Every text has one such part only, and this is the one that trimming gives.
-/

namespace Scribe.Text

/-- What is left of a text without the blanks around it. -/
structure Trims (text inner : List Char) : Prop where
  gaps : ∃ front back, text = front ++ (inner ++ back) ∧
    (∀ c ∈ front, isBlank c = true) ∧ ∀ c ∈ back, isBlank c = true
  first : ∀ c ∈ inner.head?, isBlank c = false
  last : ∀ c ∈ inner.getLast?, isBlank c = false

variable {text inner gap : List Char}

theorem trimChars_eq (text : List Char) :
    trimChars text = (text.dropWhile isBlank).rdropWhile isBlank := rfl

theorem rdropWhile_gap (blank : ∀ c ∈ gap, isBlank c = true) :
    (text ++ gap).rdropWhile isBlank = text.rdropWhile isBlank := by
  have backwards : ∀ c ∈ gap.reverse, isBlank c = true := by
    intro c member
    exact blank c (List.mem_reverse.mp member)
  rw [List.rdropWhile, List.reverse_append, List.dropWhile_append_of_pos backwards,
    ← List.rdropWhile]

theorem rdropWhile_of_last (last : ∀ c ∈ text.getLast?, isBlank c = false) :
    text.rdropWhile isBlank = text := by
  rw [List.rdropWhile_eq_self_iff]
  intro nonempty blank
  rw [last _ (List.getLast_mem_getLast? nonempty)] at blank
  cases blank

/-- Nothing else can be left. -/
theorem Trims.eq_trimChars (trims : Trims text inner) : inner = trimChars text := by
  obtain ⟨⟨front, back, rfl, blankFront, blankBack⟩, first, last⟩ := trims
  rw [trimChars_eq, List.dropWhile_append_of_pos blankFront]
  cases inner with
  | nil => rw [List.nil_append, List.dropWhile_eq_nil_iff.mpr blankBack, List.rdropWhile_nil]
  | cons c rest =>
      have solid : isBlank c ≠ true := Bool.eq_false_iff.mp (first c rfl)
      rw [List.cons_append, List.dropWhile_cons_of_neg solid, ← List.cons_append,
        rdropWhile_gap blankBack, rdropWhile_of_last last]

theorem trims_trimChars (text : List Char) : Trims text (trimChars text) := by
  rw [trimChars_eq]
  constructor
  · refine ⟨text.takeWhile isBlank, (text.dropWhile isBlank).rtakeWhile isBlank, ?_, ?_, ?_⟩
    · rw [List.rdropWhile_append_rtakeWhile, List.takeWhile_append_dropWhile]
    · intro c member
      exact List.mem_takeWhile_imp member
    · intro c member
      exact List.mem_rtakeWhile_imp member
  · -- What is left begins as the text does behind its first gap.
    intro c first
    obtain ⟨back, whole⟩ := List.rdropWhile_prefix isBlank (l := text.dropWhile isBlank)
    have start := List.head?_dropWhile_not isBlank text
    rw [← whole, List.head?_append, first] at start
    exact start
  · intro c last
    obtain ⟨nonempty, rfl⟩ := List.mem_getLast?_eq_getLast last
    exact Bool.eq_false_iff.mpr (List.rdropWhile_last_not isBlank _ nonempty)

/-- What is left is what trimming gives. -/
theorem trims_iff : Trims text inner ↔ inner = trimChars text := by
  constructor
  · exact Trims.eq_trimChars
  · rintro rfl
    exact trims_trimChars text

end Scribe.Text
