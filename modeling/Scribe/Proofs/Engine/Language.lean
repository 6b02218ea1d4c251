import Scribe.Engine.Language
import Scribe.Proofs.Text.Trimming

/-!
# How hints are resolved

A hint names its primary subtag: what stands before its first hyphen or underscore, without the
blanks around it and in small letters.  A hint that names a supported language is resolved to it,
and every other one gives way to the default.  So nothing of a hint counts but its subtag, and
where the default is supported an engine is never asked for a language that is not; a language
that came of a hint comes of itself again.
-/

namespace Scribe.Language

open Scribe.Text

/-! ## What a hint names -/

/-- A text without the blanks around it, with small letters for the capital ones of ASCII. -/
def IsFolded (text : String) (folded : List Char) : Prop :=
  ∃ inner, Trims text.toList inner ∧ folded = inner.map Char.toLower

/-- What a tag begins with, up to its first hyphen or underscore or to its end. -/
structure Begins (tag front : List Char) : Prop where
  solid : ∀ c ∈ front, c ≠ '-' ∧ c ≠ '_'
  ends : ∃ rest, tag = front ++ rest ∧ ∀ c ∈ rest.head?, c = '-' ∨ c = '_'

/-- The primary subtag of a hint. -/
def Names (hint subtag : String) : Prop :=
  ∃ tag, IsFolded hint tag ∧ Begins tag subtag.toList

theorem isFolded_iff {text : String} {folded : List Char} :
    IsFolded text folded ↔ folded = fold text := by
  simp only [IsFolded, trims_iff, exists_eq_left, fold]

theorem IsFolded.unique {text folded other : String} (isFolded : IsFolded text folded.toList)
    (also : IsFolded text other.toList) : other = folded := by
  apply String.toList_injective
  rw [isFolded_iff.mp isFolded, isFolded_iff.mp also]

/-- A subtag goes on with any character but a hyphen or an underscore. -/
def goesOn (c : Char) : Bool := c != '-' && c != '_'

theorem primary_eq (tag : List Char) : primary tag = tag.takeWhile goesOn := rfl

theorem goesOn_iff {c : Char} : goesOn c = true ↔ c ≠ '-' ∧ c ≠ '_' := by
  simp [goesOn]

theorem goesOn_eq_false_iff {c : Char} : goesOn c = false ↔ c = '-' ∨ c = '_' := by
  rw [Bool.eq_false_iff, ne_eq, goesOn_iff, not_and_or, not_not, not_not]

theorem begins_iff {tag front : List Char} : Begins tag front ↔ front = primary tag := by
  rw [primary_eq]
  constructor
  · rintro ⟨solid, rest, rfl, ends⟩
    have stop : rest.takeWhile goesOn = [] := by
      cases rest with
      | nil => rfl
      | cons c others =>
          rw [List.takeWhile_cons, goesOn_eq_false_iff.mpr (ends c rfl)]
          rfl
    have through : ∀ c ∈ front, goesOn c = true := by
      intro c member
      exact goesOn_iff.mpr (solid c member)
    rw [List.takeWhile_append_of_pos through, stop, List.append_nil]
  · rintro rfl
    refine ⟨?_, tag.dropWhile goesOn, List.takeWhile_append_dropWhile.symm, ?_⟩
    · intro c member
      exact goesOn_iff.mp (List.mem_takeWhile_imp member)
    · intro c first
      have stops := List.head?_dropWhile_not goesOn tag
      rw [first] at stops
      exact goesOn_eq_false_iff.mp stops

theorem names_iff {hint subtag : String} :
    Names hint subtag ↔ subtag = String.ofList (primary (fold hint)) := by
  simp only [Names, isFolded_iff, exists_eq_left, begins_iff]
  constructor
  · intro same
    rw [← same, String.ofList_toList]
  · rintro rfl
    rw [String.toList_ofList]

theorem Names.unique {hint subtag other : String} (names : Names hint subtag)
    (again : Names hint other) : other = subtag := by
  rw [names_iff.mp names, names_iff.mp again]

theorem existsUnique_names (hint : String) : ∃! subtag, Names hint subtag :=
  ⟨_, names_iff.mpr rfl, fun _ also => names_iff.mp also⟩

/-- A supported language names itself. -/
theorem names_self {language : String} (known : language ∈ supported) :
    Names language language := by
  have each : ∀ language ∈ supported, language = String.ofList (primary (fold language)) := by
    decide +kernel
  exact names_iff.mpr (each language known)

/-! ## What it comes to -/

/-- What a hint is resolved to, where there is a default. -/
inductive Resolves (fallback : String) : Option String → String → Prop
  | unhinted {language : String} (folded : IsFolded fallback language.toList) :
      Resolves fallback none language
  | granted {hint language : String} (names : Names hint language)
      (known : language ∈ supported) : Resolves fallback (some hint) language
  | refused {hint subtag language : String} (names : Names hint subtag)
      (unknown : subtag ∉ supported) (folded : IsFolded fallback language.toList) :
      Resolves fallback (some hint) language

variable {fallback language : String} {hint : Option String}

theorem isSupported_iff : isSupported language = true ↔ language ∈ supported :=
  List.contains_iff_mem

theorem resolves_resolve (hint : Option String) (fallback : String) :
    Resolves fallback hint (resolve hint fallback) := by
  have folded : IsFolded fallback (String.ofList (fold fallback)).toList := by
    rw [isFolded_iff, String.toList_ofList]
  unfold resolve
  cases hint with
  | none => exact .unhinted folded
  | some hint =>
      dsimp only
      split
      next known => exact .granted (names_iff.mpr rfl) (isSupported_iff.mp known)
      next unknown =>
        exact .refused (names_iff.mpr rfl) (fun known => unknown (isSupported_iff.mpr known))
          folded

theorem Resolves.unique {other : String} (resolved : Resolves fallback hint language)
    (again : Resolves fallback hint other) : other = language := by
  cases resolved with
  | unhinted folded =>
      cases again with
      | unhinted also => exact folded.unique also
  | granted names known =>
      cases again with
      | granted also _ => exact names.unique also
      | refused also unknown =>
          rw [names.unique also] at unknown
          exact absurd known unknown
  | refused names unknown folded =>
      cases again with
      | granted also known =>
          rw [names.unique also] at known
          exact absurd known unknown
      | refused _ _ also => exact folded.unique also

/-- A hint is resolved in one way only. -/
theorem resolves_iff : Resolves fallback hint language ↔ resolve hint fallback = language := by
  constructor
  · intro resolved
    exact resolved.unique (resolves_resolve hint fallback)
  · rintro rfl
    exact resolves_resolve hint fallback

/-! ## What follows -/

/-- A hint may be replaced by another one with the same subtag. -/
theorem Resolves.reworded {hint other subtag : String}
    (resolved : Resolves fallback (some hint) language) (names : Names hint subtag)
    (also : Names other subtag) : Resolves fallback (some other) language := by
  cases resolved with
  | granted named known =>
      rw [names.unique named] at known ⊢
      exact .granted also known
  | refused named unknown folded =>
      rw [names.unique named] at unknown
      exact .refused also unknown folded

theorem Resolves.supported_or_folded (resolved : Resolves fallback hint language) :
    language ∈ supported ∨ IsFolded fallback language.toList := by
  cases resolved with
  | unhinted folded => exact Or.inr folded
  | granted _ known => exact Or.inl known
  | refused _ _ folded => exact Or.inr folded

/-- With a supported default everything is resolved to a supported language. -/
theorem resolve_mem_supported {default : String} (known : default ∈ supported)
    (folded : IsFolded fallback default.toList) (hint : Option String) :
    resolve hint fallback ∈ supported := by
  rcases (resolves_resolve hint fallback).supported_or_folded with inside | also
  · exact inside
  · rwa [folded.unique also]

/-- A supported language is resolved to itself. -/
theorem resolve_self (known : language ∈ supported) (fallback : String) :
    resolve (some language) fallback = language :=
  resolves_iff.mp (.granted (names_self known) known)

/-- Every hint has one primary subtag.  A hint that names a supported language is resolved to it,
and every other one to the default; hints with the same subtag are resolved alike.  What comes of
them is supported, or it is the default without the blanks around it and in small letters.  If
that is supported, so is all that comes of hints, and each result comes of itself again. -/
theorem hints_resolved (fallback : String) :
    (∀ hint, ∃! subtag, Names hint subtag) ∧
    (∀ hint language, resolve hint fallback = language ↔ Resolves fallback hint language) ∧
    (∀ hint other subtag, Names hint subtag → Names other subtag →
      resolve (some hint) fallback = resolve (some other) fallback) ∧
    (∀ hint, resolve hint fallback ∈ supported ∨
      IsFolded fallback (resolve hint fallback).toList) ∧
    ∀ default ∈ supported, IsFolded fallback default.toList → ∀ hint,
      resolve hint fallback ∈ supported ∧
        resolve (some (resolve hint fallback)) fallback = resolve hint fallback := by
  refine ⟨existsUnique_names, fun hint language => resolves_iff.symm, ?_, ?_, ?_⟩
  · intro hint other subtag names also
    have resolved := resolves_resolve (some other) fallback
    exact resolves_iff.mp (resolved.reworded also names)
  · intro hint
    exact (resolves_resolve hint fallback).supported_or_folded
  · intro default known folded hint
    have inside := resolve_mem_supported known folded hint
    exact ⟨inside, resolve_self inside fallback⟩

/-- Two spellings of English, and a hint that names nothing. -/
theorem hints_resolved_english :
    (Names " EN-in" "en" ∧ Names "en_GB\n" "en" ∧ Names "-en" "") ∧
    ("mr" ∈ supported ∧ IsFolded "\tMR " "mr".toList) ∧
    resolve (some " EN-in") "\tMR " = "en" ∧
    resolve (some " EN-in") "\tMR " = resolve (some "en_GB\n") "\tMR " ∧
    resolve (some "-en") "\tMR " ∈ supported ∧
    resolve (some (resolve (some "-en") "\tMR ")) "\tMR " = resolve (some "-en") "\tMR " := by
  have indian : Names " EN-in" "en" := names_iff.mpr (by decide)
  have british : Names "en_GB\n" "en" := names_iff.mpr (by decide)
  have empty : Names "-en" "" := names_iff.mpr (by decide)
  have english : "en" ∈ supported := by decide
  have marathi : "mr" ∈ supported := by decide
  have folded : IsFolded "\tMR " "mr".toList := isFolded_iff.mpr (by decide)
  obtain ⟨_, ways, alike, _, stays⟩ := hints_resolved "\tMR "
  exact ⟨⟨indian, british, empty⟩, ⟨marathi, folded⟩,
    (ways _ _).mpr (.granted indian english), alike _ _ _ indian british,
    stays "mr" marathi folded (some "-en")⟩

end Scribe.Language
