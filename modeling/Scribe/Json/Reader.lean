import Scribe.Json.Document
import Scribe.Text.Utf8

/-!
# Reading JSON

Bytes are read into a located document. Objects and lists may nest up to a limit.
A number without fraction and exponent that fits 64 bits is an integer. Any other
is a double: its first nineteen or so digits as an integer, scaled by a power of
ten.
-/

namespace Scribe.Json

open Scribe.Text

/-- How deep lists and objects may nest. -/
def depthLimit : Nat := 128

/-- The byte at an offset. -/
def byteAt? (text : ByteArray) (offset : Nat) : Option UInt8 :=
  if inside : offset < text.size then some text[offset] else none

/-- A fault at the byte that is looked at but not taken. -/
def faultAhead (text : ByteArray) (cause : Cause) (offset : Nat) : Fault :=
  ⟨cause, min text.size (offset + 1)⟩

/-- Whether a byte is one of the four blanks of JSON. -/
def isSpace (byte : UInt8) : Bool :=
  byte == 32 || byte == 9 || byte == 10 || byte == 13

/-- First offset at or after the given one that holds no blank. -/
def skipSpace (text : ByteArray) : (fuel : Nat) → (offset : Nat) → Nat
  | 0, offset => offset
  | fuel + 1, offset =>
      match byteAt? text offset with
      | some byte => if isSpace byte then skipSpace text fuel (offset + 1) else offset
      | none => offset

/-- First offset at or after the given one that holds no blank. -/
def afterSpace (text : ByteArray) (offset : Nat) : Nat :=
  skipSpace text (text.size - offset) offset

/-- Value of a decimal digit. -/
def digitByte? (byte : UInt8) : Option Nat :=
  if 48 ≤ byte && byte ≤ 57 then some (byte.toNat - 48) else none

/-- The digit at an offset. -/
def digitAt? (text : ByteArray) (offset : Nat) : Option Nat :=
  (byteAt? text offset).bind digitByte?

/-- Read the rest of a word such as `null`. -/
def readWord (text : ByteArray) : List UInt8 → (offset : Nat) → Except Fault Nat
  | [], offset => .ok offset
  | expected :: rest, offset =>
      match byteAt? text offset with
      | none => .error ⟨.endInValue, offset⟩
      | some byte =>
          if byte == expected then readWord text rest (offset + 1)
          else .error ⟨.expectedIdentifier, offset + 1⟩

/-- The double nearest to a power of ten. -/
def powerOfTen (exponent : Nat) : Float :=
  Float.ofScientific 1 false exponent

/-- Scale by a power of ten, in steps that the doubles can hold; nothing where the
result leaves their range. -/
def scale : (fuel : Nat) → Float → (exponent : Int) → Option Float
  | 0, _, _ => some 0
  | fuel + 1, value, exponent =>
      if exponent.natAbs ≤ 308 then
        if 0 ≤ exponent then
          let scaled := value * powerOfTen exponent.natAbs
          if Float.isInf scaled then none else some scaled
        else some (value / powerOfTen exponent.natAbs)
      else if value == 0 then some value
      else if 0 ≤ exponent then none
      else scale fuel (value / powerOfTen 308) (exponent + 308)

/-- A number read so far: its sign, its first digits and the power of ten that
the digits left out amount to. -/
structure Digits where
  positive : Bool
  significand : Nat
  exponent : Int

/-- The double that was read, ending at an offset. -/
def Digits.finish (digits : Digits) (offset : Nat) : Except Fault (Number × Nat) :=
  match scale 8 (UInt64.ofNat digits.significand).toFloat digits.exponent with
  | none => .error ⟨.numberOutOfRange, offset⟩
  | some value => .ok (.real (if digits.positive then value else -value), offset)

/-- First offset at or after the given one that holds no digit. -/
def skipDigits (text : ByteArray) : (fuel : Nat) → (offset : Nat) → Nat
  | 0, offset => offset
  | fuel + 1, offset =>
      match digitAt? text offset with
      | some _ => skipDigits text fuel (offset + 1)
      | none => offset

/-- Greatest exponent that is not taken for out of range at sight. -/
def exponentLimit : Nat := 0x7fffffff

/-- Read the digits of an exponent after the first. -/
def readExponentDigits (text : ByteArray) (digits : Digits) (raised : Bool) :
    (fuel : Nat) → (exponent : Nat) → (offset : Nat) → Except Fault (Number × Nat)
  | 0, _, offset => digits.finish offset
  | fuel + 1, exponent, offset =>
      match digitAt? text offset with
      | none =>
          Digits.finish { digits with
            exponent := digits.exponent + (if raised then (exponent : Int) else -exponent) } offset
      | some digit =>
          if exponent * 10 + digit ≤ exponentLimit then
            readExponentDigits text digits raised fuel (exponent * 10 + digit) (offset + 1)
          else if digits.significand ≠ 0 ∧ raised then
            .error ⟨.numberOutOfRange, offset + 1⟩
          else
            .ok (.real (if digits.positive then 0.0 else -0.0),
              skipDigits text (text.size - offset) (offset + 1))

/-- Read an exponent, from behind its letter. -/
def readExponent (text : ByteArray) (digits : Digits) (offset : Nat) :
    Except Fault (Number × Nat) :=
  let (raised, offset) :=
    match byteAt? text offset with
    | some 43 => (true, offset + 1)
    | some 45 => (false, offset + 1)
    | _ => (true, offset)
  match byteAt? text offset with
  | none => .error ⟨.endInValue, offset⟩
  | some byte =>
      match digitByte? byte with
      | none => .error ⟨.invalidNumber, offset + 1⟩
      | some digit =>
          readExponentDigits text digits raised (text.size - offset) digit (offset + 1)

/-- Whether an exponent begins at an offset. -/
def exponentAt (text : ByteArray) (offset : Nat) : Bool :=
  byteAt? text offset == some 101 || byteAt? text offset == some 69

/-- Read the digits of a fraction, then the exponent, if there is one. -/
def readFraction (text : ByteArray) :
    (fuel : Nat) → Digits → (some : Bool) → (offset : Nat) → Except Fault (Number × Nat)
  | 0, digits, _, offset => digits.finish offset
  | fuel + 1, digits, nonempty, offset =>
      match digitAt? text offset with
      | some digit =>
          if digits.significand * 10 + digit ≤ max64 then
            readFraction text fuel { digits with
              significand := digits.significand * 10 + digit
              exponent := digits.exponent - 1 } true (offset + 1)
          else
            let offset := skipDigits text (text.size - offset) offset
            if exponentAt text offset then readExponent text digits (offset + 1)
            else digits.finish offset
      | none =>
          if nonempty then
            if exponentAt text offset then readExponent text digits (offset + 1)
            else digits.finish offset
          else
            match byteAt? text offset with
            | some _ => .error (faultAhead text .invalidNumber offset)
            | none => .error (faultAhead text .endInValue offset)

/-- Read on behind the digits in front of the point. -/
def readAfterDigits (text : ByteArray) (digits : Digits) (offset : Nat) :
    Except Fault (Number × Nat) :=
  if byteAt? text offset == some 46 then
    readFraction text (text.size - offset + 1) digits false (offset + 1)
  else if exponentAt text offset then readExponent text digits (offset + 1)
  else digits.finish offset

/-- The integer that was read, or the double where 64 bits do not hold it; minus
zero is a double. -/
def wholeNumber (positive : Bool) (significand : Nat) : Number :=
  if positive then .integer significand
  else if significand = 0 ∨ 0x8000000000000000 < significand then
    .real (-(UInt64.ofNat significand).toFloat)
  else .integer (-(significand : Int))

/-- Read the digits in front of the point, after the first. -/
def readWhole (text : ByteArray) (positive : Bool) :
    (fuel : Nat) → (significand : Nat) → (offset : Nat) → Except Fault (Number × Nat)
  | 0, significand, offset => .ok (wholeNumber positive significand, offset)
  | fuel + 1, significand, offset =>
      match digitAt? text offset with
      | some digit =>
          if significand * 10 + digit ≤ max64 then
            readWhole text positive fuel (significand * 10 + digit) (offset + 1)
          else
            let stop := skipDigits text (text.size - offset) offset
            readAfterDigits text ⟨positive, significand, (stop - offset : Nat)⟩ stop
      | none =>
          if byteAt? text offset == some 46 || exponentAt text offset then
            readAfterDigits text ⟨positive, significand, 0⟩ offset
          else .ok (wholeNumber positive significand, offset)

/-- Read a number from its first digit on. -/
def readNumber (text : ByteArray) (positive : Bool) (offset : Nat) :
    Except Fault (Number × Nat) :=
  match byteAt? text offset with
  | none => .error ⟨.endInValue, offset⟩
  | some byte =>
      match digitByte? byte with
      | none => .error ⟨.invalidNumber, offset + 1⟩
      | some 0 =>
          match digitAt? text (offset + 1) with
          | some _ => .error (faultAhead text .invalidNumber (offset + 1))
          | none => readWhole text positive 1 0 (offset + 1)
      | some digit =>
          readWhole text positive (text.size - offset + 1) digit (offset + 1)

/-- Value of a hexadecimal digit. -/
def hexByte? (byte : UInt8) : Option Nat :=
  hexDigit? (Char.ofNat byte.toNat)

/-- Read the four digits of an escape. -/
def readHex (text : ByteArray) (offset : Nat) : Except Fault Nat :=
  match byteAt? text offset, byteAt? text (offset + 1), byteAt? text (offset + 2),
      byteAt? text (offset + 3) with
  | some a, some b, some c, some d =>
      match hexByte? a, hexByte? b, hexByte? c, hexByte? d with
      | some a, some b, some c, some d => .ok (((a * 16 + b) * 16 + c) * 16 + d)
      | _, _, _, _ => .error ⟨.invalidEscape, offset + 4⟩
  | _, _, _, _ => .error ⟨.endInString, text.size⟩

/-- Read an escape by code, from behind its letter: one group of four digits, or two
for a surrogate pair. -/
def readCode (text : ByteArray) (offset : Nat) : Except Fault (Char × Nat) :=
  match readHex text offset with
  | .error fault => .error fault
  | .ok first =>
      if 0xDC00 ≤ first ∧ first ≤ 0xDFFF then .error ⟨.loneSurrogate, offset + 4⟩
      else if first < 0xD800 ∨ 0xDFFF < first then .ok (Char.ofNat first, offset + 4)
      else
        match byteAt? text (offset + 4) with
        | none => .error ⟨.endInString, offset + 4⟩
        | some 92 =>
            match byteAt? text (offset + 5) with
            | none => .error ⟨.endInString, offset + 5⟩
            | some 117 =>
                match readHex text (offset + 6) with
                | .error fault => .error fault
                | .ok second =>
                    if 0xDC00 ≤ second ∧ second ≤ 0xDFFF then
                      .ok (Char.ofNat ((first - 0xD800) * 0x400 + (second - 0xDC00) + 0x10000),
                        offset + 10)
                    else .error ⟨.loneSurrogate, offset + 10⟩
            | some _ => .error ⟨.unfinishedSurrogate, offset + 6⟩
        | some _ => .error ⟨.unfinishedSurrogate, offset + 5⟩

/-- The byte that an escape by letter stands for. -/
def escapedByte? (letter : UInt8) : Option UInt8 :=
  if letter == 34 || letter == 92 || letter == 47 then some letter
  else if letter == 98 then some 8
  else if letter == 102 then some 12
  else if letter == 110 then some 10
  else if letter == 114 then some 13
  else if letter == 116 then some 9
  else none

/-- Read the bytes of a string up to its closing quote. -/
def readStringBytes (text : ByteArray) :
    (fuel : Nat) → (offset : Nat) → (read : ByteArray) → Except Fault (ByteArray × Nat)
  | 0, offset, _ => .error ⟨.endInString, offset⟩
  | fuel + 1, offset, read =>
      match byteAt? text offset with
      | none => .error ⟨.endInString, offset⟩
      | some byte =>
          if byte == 34 then .ok (read, offset + 1)
          else if byte == 92 then
            match byteAt? text (offset + 1) with
            | none => .error ⟨.endInString, offset + 1⟩
            | some letter =>
                if letter == 117 then
                  match readCode text (offset + 2) with
                  | .error fault => .error fault
                  | .ok (char, next) =>
                      readStringBytes text fuel next (read ++ utf8 (String.singleton char))
                else
                  match escapedByte? letter with
                  | none => .error ⟨.invalidEscape, offset + 2⟩
                  | some plain => readStringBytes text fuel (offset + 2) (read.push plain)
          else if byte < 32 then .error ⟨.controlCharacter, offset + 1⟩
          else readStringBytes text fuel (offset + 1) (read.push byte)

/-- Read a string from behind its opening quote. -/
def readString (text : ByteArray) (offset : Nat) : Except Fault (String × Nat) :=
  match readStringBytes text (text.size - offset + 1) offset ByteArray.empty with
  | .error fault => .error fault
  | .ok (bytes, stop) =>
      match ofUtf8? bytes with
      | some value => .ok (value, stop)
      | none =>
          let raw := (text.extract offset (stop - 1)).toList
          .error ⟨.invalidCodePoint, offset + validLength raw.length raw + 1⟩

/-- Offset where reading goes on after a key that is not followed up. -/
def afterKey (text : ByteArray) (offset : Nat) : Nat :=
  let next := afterSpace text offset
  if byteAt? text next == some 125 then next + 1 else next

mutual

/-- Read a value; the fuel bounds the number of values begun, the depth the lists
and objects that may still open. -/
def readValue (text : ByteArray) :
    (fuel : Nat) → (depth : Nat) → (offset : Nat) → Document × Nat
  | 0, _, offset => (.missing offset none ⟨.tooDeep, offset⟩, offset)
  | fuel + 1, depth, offset =>
      let start := afterSpace text offset
      let lead := byteAt? text start
      let missing (fault : Fault) : Document × Nat := (.missing start lead fault, start)
      let word (rest : List UInt8) (build : Nat → Document) : Document × Nat :=
        match readWord text rest (start + 1) with
        | .error fault => missing fault
        | .ok stop => (build stop, stop)
      let number (read : Except Fault (Number × Nat)) : Document × Nat :=
        match read with
        | .error fault => missing fault
        | .ok (value, stop) => (.number value start stop, stop)
      match lead with
      | none => missing (faultAhead text .endInValue start)
      | some byte =>
          if byte == 110 then word [117, 108, 108] (.null start)
          else if byte == 116 then word [114, 117, 101] (.bool true start)
          else if byte == 102 then word [97, 108, 115, 101] (.bool false start)
          else if byte == 45 then number (readNumber text false (start + 1))
          else if 48 ≤ byte && byte ≤ 57 then number (readNumber text true start)
          else if byte == 34 then
            match readString text (start + 1) with
            | .error fault => missing fault
            | .ok (value, stop) => (.string value start stop, stop)
          else if byte == 91 then
            if depth ≤ 1 then
              (.array start [] (.error (faultAhead text .tooDeep start)), start)
            else
              let (items, ending) := readItems text fuel (depth - 1) (start + 1) []
              (.array start items ending, ending.toOption.getD start)
          else if byte == 123 then
            if depth ≤ 1 then
              (.object start [] (.error (faultAhead text .tooDeep start)), start)
            else
              let (members, ending) := readMembers text fuel (depth - 1) (start + 1) []
              (.object start members ending, ending.toOption.getD start)
          else missing (faultAhead text .expectedValue start)

/-- Read the items of a list, given those read before in reverse. -/
def readItems (text : ByteArray) :
    (fuel : Nat) → (depth : Nat) → (offset : Nat) → (before : List Document) →
      List Document × Ending
  | 0, _, offset, before => (before.reverse, .error ⟨.tooDeep, offset⟩)
  | fuel + 1, depth, offset, before =>
      let next := afterSpace text offset
      let item (start : Nat) : List Document × Ending :=
        let (value, stop) := readValue text fuel depth start
        match value with
        | .missing _ _ fault => ((value :: before).reverse, .error fault)
        | .array _ _ (.error fault) => ((value :: before).reverse, .error fault)
        | .object _ _ (.error fault) => ((value :: before).reverse, .error fault)
        | value => readItems text fuel depth stop (value :: before)
      match byteAt? text next with
      | none => (before.reverse, .error (faultAhead text .endInList next))
      | some byte =>
          if byte == 93 then (before.reverse, .ok (next + 1))
          else if before.isEmpty then item next
          else if byte == 44 then
            let next := afterSpace text (next + 1)
            match byteAt? text next with
            | none => (before.reverse, .error (faultAhead text .endInValue next))
            | some byte =>
                if byte == 93 then
                  (before.reverse, .error (faultAhead text .trailingComma next))
                else item next
          else (before.reverse, .error (faultAhead text .expectedListComma next))

/-- Read the members of an object, given those read before in reverse. -/
def readMembers (text : ByteArray) :
    (fuel : Nat) → (depth : Nat) → (offset : Nat) →
      (before : List (Key × Document)) →
      List (Key × Document) × Ending
  | 0, _, offset, before => (before.reverse, .error ⟨.tooDeep, offset⟩)
  | fuel + 1, depth, offset, before =>
      let next := afterSpace text offset
      let member (start : Nat) : List (Key × Document) × Ending :=
        match readString text (start + 1) with
        | .error fault => (before.reverse, .error fault)
        | .ok (key, stop) =>
            let colon := afterSpace text stop
            let resume := afterKey text stop
            let unfinished (fault : Fault) : List (Key × Document) × Ending :=
              (((⟨key, stop, resume⟩, .missing colon none fault) :: before).reverse, .error fault)
            match byteAt? text colon with
            | none => unfinished (faultAhead text .endInObject colon)
            | some byte =>
                if byte == 58 then
                  let (value, next) := readValue text fuel depth (colon + 1)
                  let read := (⟨key, stop, resume⟩, value) :: before
                  match value with
                  | .missing _ _ fault => (read.reverse, .error fault)
                  | .array _ _ (.error fault) => (read.reverse, .error fault)
                  | .object _ _ (.error fault) => (read.reverse, .error fault)
                  | _ => readMembers text fuel depth next read
                else unfinished (faultAhead text .expectedColon colon)
      match byteAt? text next with
      | none => (before.reverse, .error (faultAhead text .endInObject next))
      | some byte =>
          if byte == 125 then (before.reverse, .ok (next + 1))
          else if before.isEmpty then
            if byte == 34 then member next
            else (before.reverse, .error (faultAhead text .keyNotString next))
          else if byte == 44 then
            let next := afterSpace text (next + 1)
            match byteAt? text next with
            | none => (before.reverse, .error (faultAhead text .endInValue next))
            | some byte =>
                if byte == 34 then member next
                else if byte == 125 then
                  (before.reverse, .error (faultAhead text .trailingComma next))
                else (before.reverse, .error (faultAhead text .keyNotString next))
          else (before.reverse, .error (faultAhead text .expectedObjectComma next))

end

/-- Read a text as one value, and where reading stopped. -/
def readDocument (text : ByteArray) : Document × Nat :=
  readValue text (2 * text.size + 4) depthLimit 0

/-- The fault of having more than blanks behind the value. -/
def trailing? (text : ByteArray) (offset : Nat) : Option Fault :=
  let next := afterSpace text offset
  (byteAt? text next).map fun _ => faultAhead text .trailingCharacters next

/-- Read a text that holds one value and nothing else. -/
def read (text : ByteArray) : Except Fault Json :=
  let (document, stop) := readDocument text
  match document.toJson with
  | .error fault => .error fault
  | .ok value =>
      match trailing? text stop with
      | some fault => .error fault
      | none => .ok value

end Scribe.Json
