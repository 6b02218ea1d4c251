import Scribe.Text.Printable
import Scribe.Url.Direction
import Scribe.Url.Label
import Scribe.Url.NameTable

/-!
# Host names

A host name is brought to its plain form: letters become small, characters that
stand for others are replaced, and some do not count at all. A label that begins
with `xn--` holds characters beyond ASCII in an encoded form, which has to decode to
characters that a name may hold.
-/

namespace Scribe.Url

open Scribe.Text

/-- Whether an ASCII character is refused in host names. -/
def isForbidden (c : Char) : Bool :=
  c.toNat ≤ 32 || c.toNat = 127 || "%#/:<>?@[\\]^|".toList.contains c

/-- Whether a character beyond ASCII may stand in a name as it is. -/
def isNameChar (c : Char) : Bool :=
  !inRanges refusedRanges c.toNat &&
    (isPrintable c || inRanges markRanges c.toNat || c.toNat = 0x200C || c.toNat = 0x200D ||
      c.toNat = 0xFF9E || c.toNat = 0xFF9F)

/-- The small letter of a capital one beyond ASCII. -/
def smallLetter? (c : Char) : Option Char :=
  let code := c.toNat
  let holds (range : Nat × Nat × Nat × Nat) : Bool :=
    range.1 ≤ code && code ≤ range.2.1 && (code - range.1) % range.2.2.1 == 0
  (capitalRanges.find? holds).map fun range => Char.ofNat (range.2.2.2 + (code - range.1))

/-- The plain form of a character; nothing if a name cannot hold it. -/
def plainForm (c : Char) : Option (List Char) :=
  let code := c.toNat
  if code < 128 then if isForbidden c then none else some [c.toLower]
  else if code = 0x3002 then some ['.']
  else if inRanges ignoredRanges code then some []
  else
    match asciiRanges.find? fun (first, last, _) => first ≤ code && code ≤ last with
    | some (first, _, target) =>
        let plain := Char.ofNat (target + (code - first))
        if isForbidden plain then none else some [plain]
    | none =>
        match asciiTexts.find? fun (other, _) => other == code with
        | some (_, text) => if text.toList.any isForbidden then none else some text.toList
        | none =>
            match smallLetter? c with
            | some small => some [small]
            | none => if isNameChar c then some [c] else none

/-- The plain form of a text. -/
def plainForms : List Char → Option (List Char)
  | [] => some []
  | c :: rest => do
      let plain ← plainForm c
      let later ← plainForms rest
      return plain ++ later

/-- Split at dots. -/
def labels : List Char → List (List Char)
  | [] => [[]]
  | c :: rest =>
      if c = '.' then [] :: labels rest
      else
        match labels rest with
        | [] => [[c]]
        | label :: later => (c :: label) :: later

/-! ## Labels -/

/-- Whether every joiner stands after a mark that gives it a meaning. -/
def joinersPlaced : Option Char → List Char → Bool
  | _, [] => true
  | before, c :: rest =>
      let placed :=
        if c.toNat = 0x200C ∨ c.toNat = 0x200D then
          match before with
          | some mark => viramas.contains mark.toNat
          | none => false
        else true
      placed && joinersPlaced (some c) rest

/-- Whether the characters of a label may stand together. -/
def labelValid (label : List Char) : Bool :=
  let startsWell :=
    match label with
    | c :: _ => !inRanges markRanges c.toNat
    | [] => true
  startsWell && joinersPlaced none label

/-- What an encoded label begins with. -/
def encodedMark : List Char := ['x', 'n', '-', '-']

/-- The characters that a label stands for, if it is valid; an encoded one is decoded. -/
def openLabel (label : List Char) : Option (List Char) := do
  if label.take 4 = encodedMark then
    let decoded ← decodeLabel (label.drop 4)
    if decoded.any (fun c => 128 ≤ c.toNat) && labelValid decoded &&
        decoded.all fun c => plainForm c == some [c] then decoded
    else none
  else if labelValid label then label else none

/-- Whether labels can be read in the directions of their characters. -/
def directionsAgree (opened : List (List Char)) : Bool :=
  !opened.any (·.any runsRight) || opened.all keepsDirection

/-- The plain form of a host name, if it has one. -/
def plainName (name : List Char) : Option (List Char) := do
  let plain ← plainForms name
  let opened ← (labels plain).mapM openLabel
  if directionsAgree opened then some plain else none

/-- A label in ASCII. -/
def asciiLabel (label : List Char) : List Char :=
  if label.all (fun c => c.toNat < 128) then label else encodedMark ++ encodeLabel label

/-- Join labels with dots. -/
def joinLabels : List (List Char) → List Char
  | [] => []
  | [label] => label
  | label :: later => label ++ '.' :: joinLabels later

/-- The ASCII form of a host name, if it has one. -/
def asciiName (name : List Char) : Option (List Char) :=
  (plainName name).map fun plain => joinLabels ((labels plain).map asciiLabel)

end Scribe.Url
