import Scribe.Text.Blank

/-!
# Languages

Engines are asked for one of the supported languages. A hint is reduced to what
stands before its first hyphen or underscore; a hint that is not supported gives way
to the default.
-/

namespace Scribe.Language

open Scribe.Text

/-- The supported languages. -/
def supported : List String :=
  ["as", "bn", "brx", "doi", "en", "gu", "hi", "kn", "kok", "ks", "mai", "ml", "mni", "mr", "ne",
    "or", "pa", "sa", "sat", "sd", "ta", "te", "ur"]

/-- Whether a language is supported. -/
def isSupported (language : String) : Bool :=
  supported.contains language

/-- A text without blanks around it and with small letters of ASCII. -/
def fold (text : String) : List Char :=
  (trimChars text.toList).map Char.toLower

/-- What stands before the first hyphen or underscore. -/
def primary (tag : List Char) : List Char :=
  tag.takeWhile fun c => c != '-' && c != '_'

/-- The language to ask for. -/
def resolve (hint : Option String) (fallback : String) : String :=
  let fallback := String.ofList (fold fallback)
  match hint with
  | none => fallback
  | some hint =>
      let tag := String.ofList (primary (fold hint))
      if isSupported tag then tag else fallback

end Scribe.Language
