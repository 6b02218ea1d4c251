import Scribe.Text.Numeral
import Scribe.Text.Printable

/-!
# Quoted text

A text is quoted between double quotes. A quote and a backslash inside it are
preceded by a backslash, tabulator, line feed, carriage return and the null
character have a letter, and any other character that is not printable is given by
its code.
-/

namespace Scribe.Text

/-- Hexadecimal digits without zeros in front; the fuel is at least their number. -/
def hexCode : (fuel : Nat) → (value : Nat) → List Char
  | 0, _ => []
  | fuel + 1, value =>
      if value < 16 then [hexChar value] else hexCode fuel (value / 16) ++ [hexChar (value % 16)]

/-- A character as it stands between quotes. -/
def quoteChar (c : Char) : List Char :=
  if c = '"' then ['\\', '"']
  else if c = '\\' then ['\\', '\\']
  else if c = '\t' then ['\\', 't']
  else if c = '\n' then ['\\', 'n']
  else if c = '\r' then ['\\', 'r']
  else if c.toNat = 0 then ['\\', '0']
  else if isPrintable c then [c]
  else "\\u\x7b".toList ++ hexCode 6 c.toNat ++ "\x7d".toList

/-- A text between quotes. -/
def quote (text : String) : String :=
  "\"" ++ String.ofList (text.toList.flatMap quoteChar) ++ "\""

end Scribe.Text
