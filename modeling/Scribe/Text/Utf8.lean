/-!
# Text from bytes

Bytes become text in two ways. Strict reading accepts exactly the encodings of
texts. Lossy reading keeps every well-formed sequence and puts one replacement
character in place of each maximal ill-formed part, so it agrees with strict
reading wherever that succeeds.
-/

namespace Scribe.Text

/-- Bytes of a text. -/
def utf8 (text : String) : ByteArray :=
  text.toUTF8

/-- The text whose encoding the bytes are, if there is one. -/
def ofUtf8? (bytes : ByteArray) : Option String :=
  String.fromUTF8? bytes

/-- A continuation byte. -/
def isTail (byte : UInt8) : Bool :=
  0x80 ≤ byte && byte ≤ 0xBF

/-- Range of the second byte after a given first byte, and the number of
continuation bytes in all; nothing for a byte that starts no longer sequence. -/
def leadShape (byte : UInt8) : Option (UInt8 × UInt8 × Nat) :=
  if 0xC2 ≤ byte && byte ≤ 0xDF then some (0x80, 0xBF, 1)
  else if byte == 0xE0 then some (0xA0, 0xBF, 2)
  else if byte == 0xED then some (0x80, 0x9F, 2)
  else if 0xE1 ≤ byte && byte ≤ 0xEF then some (0x80, 0xBF, 2)
  else if byte == 0xF0 then some (0x90, 0xBF, 3)
  else if 0xF1 ≤ byte && byte ≤ 0xF3 then some (0x80, 0xBF, 3)
  else if byte == 0xF4 then some (0x80, 0x8F, 3)
  else none

/-- Length of the well-formed sequence at the head of the bytes, or of the
ill-formed part that one replacement character stands for. -/
def leadLength : List UInt8 → Except Nat Nat
  | [] => .error 0
  | first :: rest =>
      if first < 0x80 then .ok 1
      else
        match leadShape first with
        | none => .error 1
        | some (low, high, count) =>
            match rest with
            | [] => .error 1
            | second :: later =>
                if low ≤ second && second ≤ high then
                  let tails := (later.take (count - 1)).takeWhile isTail
                  if tails.length = count - 1 then .ok (count + 1)
                  else .error (tails.length + 2)
                else .error 1

/-- Number the bits of a well-formed sequence stand for. -/
def codeOf : List UInt8 → Nat
  | [a] => a.toNat
  | [a, b] => a.toNat % 32 * 64 + b.toNat % 64
  | [a, b, c] => (a.toNat % 16 * 64 + b.toNat % 64) * 64 + c.toNat % 64
  | [a, b, c, d] =>
      ((a.toNat % 8 * 64 + b.toNat % 64) * 64 + c.toNat % 64) * 64 + d.toNat % 64
  | _ => 0xFFFD

/-- Read bytes, putting U+FFFD in place of each ill-formed part. The fuel is
the number of bytes. -/
def lossyChars : (fuel : Nat) → List UInt8 → List Char
  | 0, _ => []
  | _, [] => []
  | fuel + 1, bytes =>
      match leadLength bytes with
      | .ok length =>
          Char.ofNat (codeOf (bytes.take length)) :: lossyChars fuel (bytes.drop length)
      | .error length => '\uFFFD' :: lossyChars fuel (bytes.drop (max length 1))

/-- Read bytes as text, losing only what is no text. -/
def lossy (bytes : ByteArray) : String :=
  match ofUtf8? bytes with
  | some text => text
  | none => String.ofList (lossyChars bytes.size bytes.toList)

/-- Length of the longest front part of the bytes that is well formed. -/
def validLength : (fuel : Nat) → List UInt8 → Nat
  | 0, _ => 0
  | _, [] => 0
  | fuel + 1, bytes =>
      match leadLength bytes with
      | .ok length => length + validLength fuel (bytes.drop length)
      | .error _ => 0

@[simp] theorem ofUtf8?_utf8 (text : String) : ofUtf8? (utf8 text) = some text := by
  simp [ofUtf8?, utf8, String.fromUTF8?, String.fromUTF8, text.isValidUTF8]

/-- Reading back the bytes of a text loses nothing. -/
@[simp] theorem lossy_utf8 (text : String) : lossy (utf8 text) = text := by
  simp [lossy]

end Scribe.Text
