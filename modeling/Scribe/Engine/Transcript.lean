import Scribe.Text.Blank

/-!
# Transcripts

A transcript is the text that was heard, with the language and the confidence of the
engine where it gives them. The text has single spaces between its words and none
around them; a text without words is none.
-/

namespace Scribe

open Scribe.Text

/-- What an engine heard. -/
structure Transcript where
  text : Option String
  language : Option String
  confidence : Option Float
deriving DecidableEq

namespace Transcript

/-- The normal form of a text. -/
def normalize (text : String) : Option String :=
  match words text.toList with
  | [] => none
  | found => some (String.ofList (joinWords found))

/-- A transcript with its text in normal form. -/
def of (text : String) (language : Option String) (confidence : Option Float) : Transcript :=
  ⟨normalize text, language, confidence⟩

end Transcript

end Scribe
