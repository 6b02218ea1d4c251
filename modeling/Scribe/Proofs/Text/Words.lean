import Mathlib.Data.List.Basic
import Scribe.Text.Blank

/-!
# Words of a text

A text falls into gaps of blanks and words, which are runs of other characters.  A word reaches
from one gap or end of the text to the next, so there is one way only to take a text apart, and
this is the one in which its words are found.  Words that are written in a row with a space
between neighbours are the words of the text that this makes.
-/

namespace Scribe.Text

/-! ## Texts taken apart -/

/-- A run of characters that are not blank. -/
structure IsWord (word : List Char) : Prop where
  nonempty : word ≠ []
  solid : ∀ c ∈ word, isBlank c = false

/-- A text taken apart into its words: each of them stands behind a gap, which may be empty, and
reaches up to a blank or to the end. -/
inductive Parted : List Char → List (List Char) → Prop
  | gap {gap : List Char} (blank : ∀ c ∈ gap, isBlank c = true) : Parted gap []
  | word {gap word rest : List Char} {found : List (List Char)}
      (blank : ∀ c ∈ gap, isBlank c = true) (isWord : IsWord word)
      (ends : ∀ c ∈ rest.head?, isBlank c = true) (later : Parted rest found) :
      Parted (gap ++ (word ++ rest)) (word :: found)

variable {text word rest gap : List Char} {found : List (List Char)} {c : Char}

theorem Parted.cons_blank (blank : isBlank c = true) (parted : Parted text found) :
    Parted (c :: text) found := by
  cases parted with
  | gap others => exact .gap (List.forall_mem_cons.mpr ⟨blank, others⟩)
  | word others isWord ends later =>
      rw [← List.cons_append]
      exact .word (List.forall_mem_cons.mpr ⟨blank, others⟩) isWord ends later

theorem isWord_singleton (solid : isBlank c = false) : IsWord [c] :=
  ⟨List.cons_ne_nil _ _, by simpa using solid⟩

theorem IsWord.cons (isWord : IsWord word) (solid : isBlank c = false) : IsWord (c :: word) :=
  ⟨List.cons_ne_nil _ _, List.forall_mem_cons.mpr ⟨solid, isWord.solid⟩⟩

/-- A word before a blank, or at the end, is the first one. -/
theorem Parted.first_word (isWord : IsWord word) (ends : ∀ c ∈ rest.head?, isBlank c = true)
    (later : Parted rest found) : Parted (word ++ rest) (word :: found) := by
  rw [← List.nil_append (word ++ rest)]
  exact .word (by simp) isWord ends later

/-- A solid character before another one belongs to the same word. -/
theorem Parted.cons_solid {next : Char} (solid : isBlank c = false)
    (solidNext : isBlank next = false) (parted : Parted (next :: rest) found) :
    ∃ word later, found = word :: later ∧ Parted (c :: next :: rest) ((c :: word) :: later) := by
  generalize whole : next :: rest = text at parted
  cases parted with
  | gap blank =>
      subst whole
      rw [blank next List.mem_cons_self] at solidNext
      cases solidNext
  | @word gap word after later blank isWord ends parted =>
      cases gap with
      | nil =>
          refine ⟨word, later, rfl, ?_⟩
          rw [List.nil_append, ← List.cons_append]
          exact first_word (isWord.cons solid) ends parted
      | cons first others =>
          obtain ⟨rfl, _⟩ := List.cons.inj whole
          rw [blank next List.mem_cons_self] at solidNext
          cases solidNext

/-! ## Finding the words -/

theorem words_cons_blank (blank : isBlank c = true) : words (c :: text) = words text := by
  cases text <;> simp [words, blank]

theorem words_cons_end (solid : isBlank c = false) (ends : ∀ next ∈ text.head?, isBlank next = true) :
    words (c :: text) = [c] :: words text := by
  cases text with
  | nil => simp [words, solid]
  | cons next rest =>
      have blankNext : isBlank next = true := ends next rfl
      rw [words, if_neg (by simp [solid])]
      simp [blankNext]

theorem words_cons_solid {next : Char} {later : List (List Char)} (solid : isBlank c = false)
    (solidNext : isBlank next = false) (same : words (next :: rest) = word :: later) :
    words (c :: next :: rest) = (c :: word) :: later := by
  rw [words, if_neg (by simp [solid]), same]
  simp [solidNext]

/-- The words that are found take the text apart. -/
theorem parted_words (text : List Char) : Parted text (words text) := by
  induction text with
  | nil => exact .gap (by simp)
  | cons c rest ih =>
      cases blank : isBlank c with
      | true =>
          rw [words_cons_blank blank]
          exact ih.cons_blank blank
      | false =>
          by_cases ends : ∀ next ∈ rest.head?, isBlank next = true
          · rw [words_cons_end blank ends]
            exact .first_word (isWord_singleton blank) ends ih
          · cases rest with
            | nil => exact absurd (by simp) ends
            | cons next others =>
                have solidNext : isBlank next = false := by simpa using ends
                obtain ⟨word, later, same, parted⟩ := ih.cons_solid blank solidNext
                rw [words_cons_solid blank solidNext same]
                exact parted

/-! ## One way only -/

theorem words_gap (blank : ∀ c ∈ gap, isBlank c = true) : words (gap ++ text) = words text := by
  induction gap with
  | nil => rfl
  | cons c others ih =>
      obtain ⟨first, rest⟩ := List.forall_mem_cons.mp blank
      rw [List.cons_append, words_cons_blank first]
      exact ih rest

theorem words_word (isWord : IsWord word) (ends : ∀ c ∈ rest.head?, isBlank c = true) :
    words (word ++ rest) = word :: words rest := by
  obtain ⟨nonempty, solid⟩ := isWord
  induction word with
  | nil => exact absurd rfl nonempty
  | cons c others ih =>
      obtain ⟨first, solid⟩ := List.forall_mem_cons.mp solid
      cases others with
      | nil => exact words_cons_end first ends
      | cons next after =>
          exact words_cons_solid first (solid next List.mem_cons_self)
            (ih (List.cons_ne_nil _ _) solid)

/-- A text can be taken apart in one way only, that in which its words are found. -/
theorem parted_iff : Parted text found ↔ found = words text := by
  constructor
  · intro parted
    induction parted with
    | @gap gap blank =>
        rw [← List.append_nil gap, words_gap blank]
        rfl
    | word blank isWord ends _ ih => rw [words_gap blank, words_word isWord ends, ih]
  · rintro rfl
    exact parted_words text

theorem Parted.isWord (parted : Parted text found) : ∀ word ∈ found, IsWord word := by
  induction parted with
  | gap => simp
  | word _ isWord _ _ ih => exact List.forall_mem_cons.mpr ⟨isWord, ih⟩

theorem isWord_of_mem_words (member : word ∈ words text) : IsWord word :=
  (parted_words text).isWord word member

theorem words_eq_nil_iff : words text = [] ↔ ∀ c ∈ text, isBlank c = true := by
  constructor
  · intro none
    have parted := parted_words text
    rw [none] at parted
    cases parted with
    | gap blank => exact blank
  · intro blank
    exact (parted_iff.mp (.gap blank)).symm

/-! ## Words in a row -/

theorem joinWords_cons_cons (word next : List Char) (later : List (List Char)) :
    joinWords (word :: next :: later) = word ++ ' ' :: joinWords (next :: later) := rfl

/-- Neighbours have one space between them. -/
theorem joinWords_eq_intercalate (found : List (List Char)) :
    joinWords found = [' '].intercalate found := by
  induction found with
  | nil => rfl
  | cons word later ih =>
      cases later with
      | nil => simp [joinWords]
      | cons next others =>
          rw [joinWords_cons_cons, ih, List.intercalate_cons_cons, List.append_assoc]
          rfl

theorem isBlank_space : isBlank ' ' = true := rfl

/-- Words in a row are the words of the text that they make. -/
theorem parted_joinWords (each : ∀ word ∈ found, IsWord word) : Parted (joinWords found) found := by
  induction found with
  | nil => exact .gap (by simp [joinWords])
  | cons word later ih =>
      obtain ⟨isWord, others⟩ := List.forall_mem_cons.mp each
      cases later with
      | nil =>
          have ends : ∀ c ∈ (joinWords []).head?, isBlank c = true := by simp [joinWords]
          have whole := Parted.first_word isWord ends (ih others)
          rwa [joinWords, List.append_nil] at whole
      | cons next after =>
          rw [joinWords_cons_cons]
          exact .first_word isWord (by simp [isBlank_space]) ((ih others).cons_blank isBlank_space)

theorem words_joinWords (each : ∀ word ∈ found, IsWord word) : words (joinWords found) = found :=
  (parted_iff.mp (parted_joinWords each)).symm

theorem joinWords_ne_nil (each : ∀ word ∈ found, IsWord word) (nonempty : found ≠ []) :
    joinWords found ≠ [] := by
  intro none
  have same := words_joinWords each
  rw [none] at same
  exact nonempty same.symm

/-- Words in a row begin with a character of a word. -/
theorem head?_joinWords (each : ∀ word ∈ found, IsWord word) :
    ∀ c ∈ (joinWords found).head?, isBlank c = false := by
  intro c first
  cases found with
  | nil => cases first
  | cons word later =>
      obtain ⟨nonempty, solid⟩ := each word List.mem_cons_self
      have front : (joinWords (word :: later)).head? = word.head? := by
        cases later with
        | nil => rfl
        | cons next after => rw [joinWords_cons_cons, List.head?_append_of_ne_nil _ nonempty]
      rw [front] at first
      exact solid c (List.mem_of_head? first)

/-- Words in a row end with a character of a word. -/
theorem getLast?_joinWords (each : ∀ word ∈ found, IsWord word) :
    ∀ c ∈ (joinWords found).getLast?, isBlank c = false := by
  intro c last
  induction found with
  | nil => cases last
  | cons word later ih =>
      obtain ⟨isWord, others⟩ := List.forall_mem_cons.mp each
      cases later with
      | nil => exact isWord.solid c (List.mem_of_getLast? last)
      | cons next after =>
          have nonempty := joinWords_ne_nil others (List.cons_ne_nil _ _)
          rw [joinWords_cons_cons, List.append_cons, List.getLast?_append_of_ne_nil _ nonempty]
            at last
          exact ih others last

end Scribe.Text
