import Scribe.Text.Blank

/-!
# Engine kinds

There are two kinds of engine. The name of a kind may be written with or without a
hyphen and in letters of either case.
-/

namespace Scribe

open Scribe.Text

/-- A kind of engine. -/
inductive EngineKind
  | conformer
  | whisper
deriving DecidableEq, Repr

namespace EngineKind

/-- The name of a kind. -/
def name : EngineKind → String
  | .conformer => "indic-conformer"
  | .whisper => "faster-whisper"

/-- How a kind is shown in the description of a selector. -/
def label : EngineKind → String
  | .conformer => "IndicConformer"
  | .whisper => "FasterWhisper"

/-- A text with the small letters of ASCII for the capital ones. -/
def lowerCase (text : String) : String :=
  String.ofList (text.toList.map Char.toLower)

/-- The kind with a name. -/
def ofName? (name : String) : Option EngineKind :=
  let name := lowerCase name
  if name = "indic-conformer" ∨ name = "indicconformer" then some .conformer
  else if name = "faster-whisper" ∨ name = "fasterwhisper" then some .whisper
  else none

/-- The kind that a setting asks for; a name that no kind has asks for the conformer. -/
def ofSetting (text : String) : EngineKind :=
  (ofName? (trim text)).getD .conformer

end EngineKind

end Scribe
