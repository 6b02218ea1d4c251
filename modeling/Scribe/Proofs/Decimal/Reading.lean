import Mathlib.Data.List.Basic
import Scribe.Decimal.Reading
import Scribe.Proofs.Text.Numeral

/-!
# What is a decimal

The texts that are read as doubles, said without the reader: a sign that may be missing, and then
the name of infinity or of what is no number, or digits with at most one point among or beside
them, and an exponent that may be missing.
-/

namespace Scribe.Decimal

open Scribe.Text

/-- A sign, which may be missing. -/
def IsSign (text : List Char) : Prop := text = [] ∨ text = ['+'] ∨ text = ['-']

/-- An exponent, which may be missing. -/
def IsExponent (text : List Char) : Prop :=
  text = [] ∨ ∃ letter sign digits, text = letter :: (sign ++ digits) ∧
    (letter = 'e' ∨ letter = 'E') ∧ IsSign sign ∧ IsNumeral digits

/-- Digits with at most one point, and an exponent. -/
def IsMagnitude (text : List Char) : Prop :=
  ∃ whole point part exponent, text = whole ++ (point ++ (part ++ exponent)) ∧
    (point = ['.'] ∨ point = [] ∧ part = []) ∧ IsNumeral (whole ++ part) ∧ IsExponent exponent

/-- The name of a number, in letters of any case. -/
def IsName (text : List Char) : Prop :=
  text.map Char.toLower ∈ ["inf".toList, "infinity".toList, "nan".toList]

/-- A decimal. -/
def IsDecimal (text : List Char) : Prop :=
  ∃ sign body, text = sign ++ body ∧ IsSign sign ∧ (IsName body ∨ IsMagnitude body)

/-! ## Digits -/

/-- A text does not go on with a digit. -/
def Stops (text : List Char) : Prop := ∀ c, text.head? = some c → isDigit c = false

theorem splitDigits_append {digits rest : List Char} (all : ∀ c ∈ digits, isDigit c = true)
    (stops : Stops rest) : splitDigits (digits ++ rest) = (digits, rest) := by
  have stop : rest.takeWhile isDigit = [] := by
    cases rest with
    | nil => rfl
    | cons c rest => simp [stops c rfl]
  rw [splitDigits, List.takeWhile_append_of_pos all, stop, List.append_nil, List.drop_left]

theorem splitDigits_spec (text : List Char) :
    text = (splitDigits text).1 ++ (splitDigits text).2 ∧
      ∀ c ∈ (splitDigits text).1, isDigit c = true :=
  ⟨List.prefix_iff_eq_append.mp (List.takeWhile_prefix isDigit) |>.symm,
    List.all_eq_true.mp List.all_takeWhile⟩

theorem splitPart_spec (text : List Char) :
    ∃ point, text = point ++ ((splitPart text).1 ++ (splitPart text).2) ∧
      (point = ['.'] ∨ point = [] ∧ (splitPart text).1 = []) ∧
      ∀ c ∈ (splitPart text).1, isDigit c = true := by
  rw [splitPart.eq_def]
  split
  next rest =>
    obtain ⟨whole, digits⟩ := splitDigits_spec rest
    exact ⟨['.'], congrArg ('.' :: ·) whole, Or.inl rfl, digits⟩
  next rest => exact ⟨[], rfl, Or.inr ⟨rfl, rfl⟩, by simp⟩

/-! ## Signs -/

/-- A text does not start with a sign. -/
def Unsigned (text : List Char) : Prop := ∀ c, text.head? = some c → c ≠ '+' ∧ c ≠ '-'

/-- What is left of a text without its sign, if that is of a kind that has no sign. -/
theorem splitSign_iff {kind : List Char → Prop} (unsigned : ∀ body, kind body → Unsigned body)
    (text : List Char) :
    kind (splitSign text).2 ↔ ∃ sign body, text = sign ++ body ∧ IsSign sign ∧ kind body := by
  constructor
  · intro rest
    rw [splitSign.eq_def] at rest
    split at rest
    next body => exact ⟨['-'], body, rfl, Or.inr (Or.inr rfl), rest⟩
    next body => exact ⟨['+'], body, rfl, Or.inr (Or.inl rfl), rest⟩
    next => exact ⟨[], text, rfl, Or.inl rfl, rest⟩
  · rintro ⟨sign, body, rfl, rfl | rfl | rfl, rest⟩
    · have bare : splitSign body = (false, body) := by
        rw [splitSign.eq_def]
        split
        next => exact absurd rfl (unsigned _ rest _ rfl).2
        next => exact absurd rfl (unsigned _ rest _ rfl).1
        next => rfl
      rwa [List.nil_append, bare]
    · exact rest
    · exact rest

theorem unsigned_of_isDigit {c : Char} {rest : List Char} (digit : isDigit c = true) :
    Unsigned (c :: rest) := by
  rintro _ ⟨⟩
  constructor <;> rintro rfl <;> cases digit

theorem unsigned_of_isNumeral {text : List Char} (numeral : IsNumeral text) : Unsigned text := by
  obtain ⟨some, digits⟩ := numeral
  cases text with
  | nil => exact absurd rfl some
  | cons c rest => exact unsigned_of_isDigit (digits c List.mem_cons_self)

/-! ## Exponents -/

theorem isExponent_cons_iff (letter : Char) (rest : List Char) :
    IsExponent (letter :: rest) ↔ (letter = 'e' ∨ letter = 'E') ∧ IsNumeral (splitSign rest).2 := by
  rw [splitSign_iff fun _ => unsigned_of_isNumeral]
  constructor
  · rintro (empty | ⟨_, sign, digits, same, isLetter, isSign, numeral⟩)
    · cases empty
    · cases same
      exact ⟨isLetter, sign, digits, rfl, isSign, numeral⟩
  · rintro ⟨isLetter, sign, digits, rfl, isSign, numeral⟩
    exact Or.inr ⟨letter, sign, digits, rfl, isLetter, isSign, numeral⟩

theorem readExponent_isSome_iff (text : List Char) :
    (readExponent text).isSome = true ↔ IsExponent text := by
  cases text with
  | nil => simp [readExponent, IsExponent]
  | cons letter rest =>
      rw [isExponent_cons_iff, readExponent]
      obtain ⟨negative, digits⟩ := splitSign rest
      simp only
      split
      next refused => grind [IsNumeral, isDigit]
      next accepted =>
        have numeral : (letter = 'e' ∨ letter = 'E') ∧ IsNumeral digits := by
          grind [IsNumeral, isDigit]
        cases negative <;> simp [numeral]

/-! ## Magnitudes -/

theorem stops_of_isExponent {text : List Char} (exponent : IsExponent text) : Stops text := by
  rintro c first
  rcases exponent with rfl | ⟨letter, sign, digits, rfl, rfl | rfl, -⟩
  · cases first
  · cases first
    decide
  · cases first
    decide

theorem readMagnitude_isSome_iff (text : List Char) :
    (readMagnitude text).isSome = true ↔ IsMagnitude text := by
  have parts : (readMagnitude text).isSome = true ↔
      (splitDigits text).1 ++ (splitPart (splitDigits text).2).1 ≠ [] ∧
        IsExponent (splitPart (splitDigits text).2).2 := by
    rw [← readExponent_isSome_iff, readMagnitude]
    simp only
    split <;> simp_all
  rw [parts]
  constructor
  · rintro ⟨some, exponent⟩
    obtain ⟨whole, wholeDigits⟩ := splitDigits_spec text
    obtain ⟨point, rest, isPoint, partDigits⟩ := splitPart_spec (splitDigits text).2
    refine ⟨_, point, _, _, ?_, isPoint, ⟨some, ?_⟩, exponent⟩
    · rw [← rest]
      exact whole
    · intro c member
      exact (List.mem_append.mp member).elim (wholeDigits c) (partDigits c)
  · rintro ⟨whole, point, part, exponent, rfl, isPoint, ⟨some, digits⟩, isExponent⟩
    have wholeDigits : ∀ c ∈ whole, isDigit c = true :=
      fun c member => digits c (List.mem_append_left _ member)
    have partDigits : ∀ c ∈ part, isDigit c = true :=
      fun c member => digits c (List.mem_append_right _ member)
    have stops := stops_of_isExponent isExponent
    rcases isPoint with rfl | ⟨rfl, rfl⟩
    · have point : Stops ('.' :: (part ++ exponent)) := by
        rintro _ ⟨⟩
        decide
      have split : splitPart ('.' :: (part ++ exponent)) = (part, exponent) :=
        splitDigits_append partDigits stops
      rw [List.singleton_append, splitDigits_append wholeDigits point, split]
      exact ⟨some, isExponent⟩
    · have split : splitPart exponent = ([], exponent) := by
        rw [splitPart.eq_def]
        split
        next rest =>
          rcases isExponent with empty | ⟨_, _, _, same, rfl | rfl, -⟩
          · cases empty
          · cases same
          · cases same
        next => rfl
      rw [List.nil_append, List.nil_append, splitDigits_append wholeDigits stops, split]
      exact ⟨some, isExponent⟩

/-! ## Decimals -/

theorem readNamed_isSome_iff (text : List Char) :
    (readNamed text).isSome = true ↔ IsName text := by
  have written : ∀ name, text.map Char.toLower = String.toList name ↔
      String.ofList (text.map Char.toLower) = name := by
    intro name
    constructor
    · intro same
      rw [same, String.ofList_toList]
    · rintro rfl
      rw [String.toList_ofList]
  simp only [readNamed, IsName, List.mem_cons, List.not_mem_nil, or_false, written]
  split <;> simp_all

theorem unsigned_of_isName {text : List Char} (name : IsName text) : Unsigned text := by
  rintro c first
  cases text with
  | nil => cases first
  | cons c rest =>
      cases first
      have front : c.toLower = 'i' ∨ c.toLower = 'n' := by
        simp only [IsName, List.map_cons, List.mem_cons, List.not_mem_nil, or_false] at name
        rcases name with name | name | name
        · exact Or.inl (List.cons.inj name).1
        · exact Or.inl (List.cons.inj name).1
        · exact Or.inr (List.cons.inj name).1
      constructor <;> rintro rfl <;> revert front <;> decide

theorem unsigned_of_isMagnitude {text : List Char} (magnitude : IsMagnitude text) :
    Unsigned text := by
  obtain ⟨whole, point, part, exponent, rfl, isPoint, ⟨some, digits⟩, -⟩ := magnitude
  cases whole with
  | cons c rest => exact unsigned_of_isDigit (digits c List.mem_cons_self)
  | nil =>
      rcases isPoint with rfl | ⟨-, rfl⟩
      · rintro _ ⟨⟩
        decide
      · exact absurd rfl some

/-- The texts that are read are the decimals. -/
theorem read_ok_iff (text : List Char) :
    (∃ value, read text = .ok value) ↔ IsDecimal text := by
  have unsigned : ∀ body, IsName body ∨ IsMagnitude body → Unsigned body :=
    fun _ kind => kind.elim unsigned_of_isName unsigned_of_isMagnitude
  rw [IsDecimal, ← splitSign_iff unsigned, ← readNamed_isSome_iff, ← readMagnitude_isSome_iff,
    ← Bool.or_eq_true, ← Option.isSome_or]
  cases text with
  | nil =>
      have none : ((readNamed []).or (readMagnitude [])).isSome = false := by decide
      simp [read, splitSign, none]
  | cons c rest =>
      rw [read.eq_2 _ (by simp)]
      obtain ⟨negative, body⟩ := splitSign (c :: rest)
      simp only
      cases (readNamed body).or (readMagnitude body) <;> simp

end Scribe.Decimal
