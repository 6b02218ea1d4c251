/-!
# Encoded labels

A label of a host name with characters beyond ASCII has an encoded form. It begins with
the ASCII characters of the label; the others follow as numbers, in the order of their
codes, that tell how many places to go on before the next one is inserted. A number has
digits of base 36, the least one first, and ends with the first digit below a threshold,
which follows the size of the numbers so far.
-/

namespace Scribe.Url

/-- Value of a digit of an encoded label. -/
def labelDigit? (c : Char) : Option Nat :=
  if 'a' ≤ c ∧ c ≤ 'z' then some (c.toNat - 'a'.toNat)
  else if 'A' ≤ c ∧ c ≤ 'Z' then some (c.toNat - 'A'.toNat)
  else if '0' ≤ c ∧ c ≤ '9' then some (c.toNat - '0'.toNat + 26)
  else none

/-- The digit of a value below 36. -/
def labelDigit (value : Nat) : Char :=
  Char.ofNat (if value < 26 then 'a'.toNat + value else '0'.toNat + (value - 26))

/-- Bring the bias in line with the last step; the fuel bounds the halvings. -/
def adaptBias : (fuel : Nat) → (delta steps : Nat) → Nat
  | 0, delta, steps => steps + 36 * delta / (delta + 38)
  | fuel + 1, delta, steps =>
      if 455 < delta then adaptBias fuel (delta / 35) (steps + 36)
      else steps + 36 * delta / (delta + 38)

/-- The bias after a number was used for the character that brings the count to `size`. -/
def nextBias (number size : Nat) (first : Bool) : Nat :=
  let delta := if first then number / 700 else number / 2
  adaptBias 8 (delta + delta / size) 0

/-- The threshold at a position of a number. -/
def threshold (bias position : Nat) : Nat :=
  if position ≤ bias then 1 else min 26 (position - bias)

theorem threshold_pos (bias position : Nat) : 0 < threshold bias position := by
  unfold threshold
  split <;> omega

/-! ## Decoding -/

/-- Read one number of varying length. -/
def readVarying (bias : Nat) :
    (index weight position : Nat) → List Char → Option (Nat × List Char)
  | _, _, _, [] => none
  | index, weight, position, c :: rest => do
      let digit ← labelDigit? c
      let index := index + digit * weight
      if 0x100000000 ≤ index then none
      let least := threshold bias position
      if digit < least then some (index, rest)
      else readVarying bias index (weight * (36 - least)) (position + 36) rest

/-- Insert the characters that the numbers stand for. -/
def insertCodes : (fuel : Nat) → (code bias index : Nat) → (first : Bool) →
    (output : List Char) → List Char → Option (List Char)
  | _, _, _, _, _, output, [] => some output
  | 0, _, _, _, _, _, _ => none
  | fuel + 1, code, bias, index, first, output, digits => do
      let (next, rest) ← readVarying bias index 1 36 digits
      let size := output.length + 1
      let bias := nextBias (next - index) size first
      let code := code + next / size
      if 0x110000 ≤ code ∨ (0xD800 ≤ code ∧ code ≤ 0xDFFF) then none
      let place := next % size
      let output := output.take place ++ Char.ofNat code :: output.drop place
      insertCodes fuel code bias (place + 1) false output rest

/-- Decode what follows `xn--` in a label. -/
def decodeLabel (text : List Char) : Option (List Char) :=
  let reversed := text.reverse
  let digits := (reversed.takeWhile (· ≠ '-')).reverse
  let basic := (reversed.dropWhile (· ≠ '-')).drop 1 |>.reverse
  insertCodes (digits.length + 1) 128 72 0 true basic digits

/-! ## Encoding -/

/-- Write one number. -/
def writeVarying (bias position value : Nat) : List Char :=
  let least := threshold bias position
  if value < least then [labelDigit value]
  else
    labelDigit (least + (value - least) % (36 - least)) ::
      writeVarying bias (position + 36) ((value - least) / (36 - least))
termination_by value
decreasing_by
  have positive := threshold_pos bias position
  have smaller := Nat.div_le_self (value - threshold bias position) (36 - threshold bias position)
  omega

/-- What was encoded so far: the places gone since the last character, the bias, how many
characters are done, and the digits. -/
structure LabelDraft where
  delta : Nat := 0
  bias : Nat := 72
  done : Nat
  first : Bool := true
  digits : List Char := []

namespace LabelDraft

/-- Go past a character while those of a code are inserted. -/
def pass (code : Nat) (draft : LabelDraft) (c : Char) : LabelDraft :=
  if c.toNat < code then { draft with delta := draft.delta + 1 }
  else if c.toNat = code then
    { delta := 0
      bias := nextBias draft.delta (draft.done + 1) draft.first
      done := draft.done + 1
      first := false
      digits := draft.digits ++ writeVarying draft.bias 36 draft.delta }
  else draft

/-- Insert the characters of the codes, which are in order. -/
def insertAll (label : List Char) : (next : Nat) → List Nat → LabelDraft → LabelDraft
  | _, [], draft => draft
  | next, code :: later, draft =>
      let draft := { draft with delta := draft.delta + (code - next) * (draft.done + 1) }
      let draft := label.foldl (pass code) draft
      insertAll label (code + 1) later { draft with delta := draft.delta + 1 }

end LabelDraft

/-- Encode a label; this is what follows `xn--`. -/
def encodeLabel (label : List Char) : List Char :=
  let basic := label.filter fun c => c.toNat < 128
  let codes := ((label.filter fun c => 128 ≤ c.toNat).map Char.toNat).mergeSort.eraseDups
  let draft := LabelDraft.insertAll label 128 codes { done := basic.length }
  basic ++ (if basic.isEmpty then [] else ['-']) ++ draft.digits

end Scribe.Url
