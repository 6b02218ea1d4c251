import Scribe.Json.Basic
import Scribe.Decimal.Layout
import Scribe.Text.Numeral

/-!
# Writing JSON

The written form has no blanks. In strings a quote, a backslash and the control
characters are escaped, the common ones by a letter and the others by four
hexadecimal digits; everything else stands as it is. Doubles are written with
their shortest digits; one that is not finite has no written form but null.
-/

namespace Scribe.Json

open Scribe.Text

/-- A character as it stands inside a string. -/
def escape (c : Char) : List Char :=
  if c = '"' then ['\\', '"']
  else if c = '\\' then ['\\', '\\']
  else if c = '\n' then ['\\', 'n']
  else if c = '\r' then ['\\', 'r']
  else if c = '\t' then ['\\', 't']
  else if c.toNat = 8 then ['\\', 'b']
  else if c.toNat = 12 then ['\\', 'f']
  else if c.toNat < 32 then '\\' :: 'u' :: hexChars 4 c.toNat
  else [c]

/-- A string between quotes. -/
def quoted (text : String) : String :=
  "\"" ++ String.ofList (text.toList.flatMap escape) ++ "\""

/-- A number. -/
def Number.render : Number → String
  | .integer value => signedDecimal value
  | .real value =>
      if Decimal.isFinite value then Decimal.Layout.data.finite value else "null"

mutual

/-- A value in its written form. -/
def render : Json → String
  | .null => "null"
  | .bool true => "true"
  | .bool false => "false"
  | .number value => value.render
  | .string text => quoted text
  | .array items => "[" ++ renderItems items ++ "]"
  | .object members => "\x7b" ++ renderMembers members ++ "\x7d"

/-- Items with commas between them. -/
def renderItems : List Json → String
  | [] => ""
  | [item] => render item
  | item :: rest => render item ++ "," ++ renderItems rest

/-- Members with commas between them. -/
def renderMembers : List (String × Json) → String
  | [] => ""
  | [(key, value)] => quoted key ++ ":" ++ render value
  | (key, value) :: rest => quoted key ++ ":" ++ render value ++ "," ++ renderMembers rest

end

/-- The bytes of the written form. -/
def bytes (json : Json) : ByteArray :=
  json.render.toUTF8

end Scribe.Json
