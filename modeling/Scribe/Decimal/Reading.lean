import Scribe.Text.Numeral

/-!
# Reading decimals

A decimal is read as the nearest double. It has digits with at most one point among or
beside them, and may have a sign and an exponent; infinity and what is no number are
written as words.
-/

namespace Scribe.Decimal

open Scribe.Text

/-- Why a text is no decimal. -/
inductive DecimalFault
  | empty
  | invalid
deriving DecidableEq, Repr

/-- The wording of a fault. -/
def DecimalFault.message : DecimalFault → String
  | .empty => "cannot parse float from empty string"
  | .invalid => "invalid float literal"

/-- The double nearest to digits times a power of ten. Far outside of the range of doubles
the size alone decides. -/
def nearest (digits : Nat) (exponent : Int) : Float :=
  let size := exponent + (decimalChars digits).length
  if digits = 0 ∨ size < -330 then 0.0
  else if 310 < size then 1.0 / 0.0
  else Float.ofScientific digits (exponent < 0) exponent.natAbs

/-- The number that digits stand for. -/
def numberOf (digits : List Char) : Nat :=
  digits.foldl (fun value c => value * 10 + (digit? c).getD 0) 0

/-- Whether a character is a decimal digit. -/
def isDigit (c : Char) : Bool := (digit? c).isSome

/-- The size of an exponent. Once it is far outside of the range of doubles, further digits are
passed over. -/
def exponentOf (digits : List Char) : Nat :=
  digits.foldl
    (fun value c => if value < 0x10000 then value * 10 + (digit? c).getD 0 else value) 0

/-- Split a sign off, where there is one; it is told whether it is the negative one. -/
def splitSign : List Char → Bool × List Char
  | '-' :: rest => (true, rest)
  | '+' :: rest => (false, rest)
  | text => (false, text)

/-- An exponent, which may be missing. -/
def readExponent : List Char → Option Int
  | [] => some 0
  | letter :: rest =>
      let (negative, digits) := splitSign rest
      if ¬(letter = 'e' ∨ letter = 'E') || digits.isEmpty || !digits.all isDigit then none
      else if negative then some (-(exponentOf digits : Int))
      else some (exponentOf digits)

/-- Split the digits off that a text starts with. -/
def splitDigits (text : List Char) : List Char × List Char :=
  let digits := text.takeWhile isDigit
  (digits, text.drop digits.length)

/-- Split the digits after a point off, where there is one. -/
def splitPart : List Char → List Char × List Char
  | '.' :: rest => splitDigits rest
  | rest => ([], rest)

/-- A decimal without a sign. -/
def readMagnitude (text : List Char) : Option Float :=
  let (whole, rest) := splitDigits text
  let (part, rest) := splitPart rest
  if whole.isEmpty && part.isEmpty then none
  else (readExponent rest).map fun exponent =>
    nearest (numberOf (whole ++ part)) (exponent - part.length)

/-- A number that is written as a word. -/
def readNamed (text : List Char) : Option Float :=
  match String.ofList (text.map Char.toLower) with
  | "inf" | "infinity" => some (1.0 / 0.0)
  | "nan" => some (0.0 / 0.0)
  | _ => none

/-- Read a decimal. -/
def read : List Char → Except DecimalFault Float
  | [] => .error .empty
  | text =>
      let (negative, unsigned) := splitSign text
      match (readNamed unsigned).or (readMagnitude unsigned) with
      | some value => .ok (if negative then -value else value)
      | none => .error .invalid

end Scribe.Decimal
