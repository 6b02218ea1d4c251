/-!
# Blank characters, trimming and words

A character is blank when it belongs to the Unicode property `White_Space`.
Trimming drops blanks from both ends of a text; the words of a text are its
maximal runs of characters that are not blank, in order.
-/

namespace Scribe.Text

/-- Membership in the Unicode property `White_Space`. -/
def isBlank (c : Char) : Bool :=
  let code := c.toNat
  (9 ≤ code && code ≤ 13) || code == 0x20 || code == 0x85 || code == 0xA0 ||
    code == 0x1680 || (0x2000 ≤ code && code ≤ 0x200A) || code == 0x2028 ||
    code == 0x2029 || code == 0x202F || code == 0x205F || code == 0x3000

/-- Drop the blanks in front of the first character that is not one. -/
def trimLeft (text : List Char) : List Char :=
  text.dropWhile isBlank

/-- Drop the blanks at both ends. -/
def trimChars (text : List Char) : List Char :=
  (trimLeft (trimLeft text).reverse).reverse

/-- Drop the blanks at both ends of a string. -/
def trim (text : String) : String :=
  String.ofList (trimChars text.toList)

/-- The maximal runs of characters that are not blank, in order. -/
def words : List Char → List (List Char)
  | [] => []
  | c :: rest =>
      if isBlank c then words rest
      else
        match rest with
        | [] => [[c]]
        | next :: _ =>
            if isBlank next then [c] :: words rest
            else
              match words rest with
              | [] => [[c]]
              | word :: later => (c :: word) :: later

/-- Write words in a row with one space between neighbours. -/
def joinWords : List (List Char) → List Char
  | [] => []
  | [word] => word
  | word :: later => word ++ ' ' :: joinWords later

end Scribe.Text
