import Scribe.Text.Numeral
import Scribe.Text.Utf8

/-!
# Percent encoding

A byte that may not stand in a part of an address is written as a percent sign and
two hexadecimal digits. Which bytes those are depends on the part; controls and
bytes beyond ASCII never stand for themselves.
-/

namespace Scribe.Url

open Scribe.Text

/-- Characters to encode besides controls and everything beyond ASCII. -/
abbrev EncodeSet := List Char

/-- Encoded in a fragment. -/
def fragmentSet : EncodeSet := [' ', '"', '<', '>', Char.ofNat 96]

/-- Encoded in a path. -/
def pathSet : EncodeSet := fragmentSet ++ ['#', '?', '\x7b', '\x7d']

/-- Encoded in a user name or password. -/
def userSet : EncodeSet := pathSet ++ ['/', ':', ';', '=', '@', '[', '\\', ']', '^', '|']

/-- Encoded in a query. -/
def querySet : EncodeSet := [' ', '"', '#', '<', '>']

/-- Encoded in the query of a scheme with a default port. -/
def specialQuerySet : EncodeSet := querySet ++ [Char.ofNat 39]

/-- A byte as a percent sign and two digits. -/
def percent (byte : UInt8) : List Char :=
  '%' :: (hexChars 2 byte.toNat).map Char.toUpper

/-- A character as it stands in a part. -/
def encodeChar (set : EncodeSet) (c : Char) : List Char :=
  if 32 ≤ c.toNat ∧ c.toNat < 127 ∧ c ∉ set then [c]
  else (utf8 (String.singleton c)).toList.flatMap percent

/-- A text as it stands in a part. -/
def encode (set : EncodeSet) (text : List Char) : List Char :=
  text.flatMap (encodeChar set)

/-- Bytes with the encoded ones put back; a percent sign without two digits stands
for itself. -/
def decodeBytes : List UInt8 → List UInt8
  | 37 :: high :: low :: rest =>
      match hexDigit? (Char.ofNat high.toNat), hexDigit? (Char.ofNat low.toNat) with
      | some h, some l => UInt8.ofNat (h * 16 + l) :: decodeBytes rest
      | _, _ => 37 :: decodeBytes (high :: low :: rest)
  | byte :: rest => byte :: decodeBytes rest
  | [] => []

/-- A text with the encoded bytes put back. -/
def decode (text : List Char) : List Char :=
  (lossy ⟨(decodeBytes (utf8 (String.ofList text)).toList).toArray⟩).toList

/-- A byte as it stands in a form: letters, digits and four signs stand for
themselves and a space becomes a plus sign. -/
def formByte (byte : UInt8) : List Char :=
  let c := Char.ofNat byte.toNat
  if byte < 128 && (c.isAlphanum || c == '*' || c == '-' || c == '.' || c == '_') then [c]
  else if byte == 32 then ['+']
  else percent byte

/-- A text as it stands in a form. -/
def formText (text : String) : String :=
  String.ofList ((utf8 text).toList.flatMap formByte)

/-- Names and values as a query. -/
def formQuery (fields : List (String × String)) : String :=
  String.intercalate "&" (fields.map fun (name, value) => formText name ++ "=" ++ formText value)

end Scribe.Url
