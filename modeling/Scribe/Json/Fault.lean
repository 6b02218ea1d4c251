import Scribe.Text.Numeral

/-!
# Faults of JSON texts

A fault is a cause and a byte offset. Offsets are reported as a line, counted from
one, and a column, the number of bytes since the line began.
-/

namespace Scribe.Json

open Scribe.Text

/-- What is wrong with a text that is no JSON. -/
inductive Cause
  | endInList
  | endInObject
  | endInString
  | endInValue
  | expectedColon
  | expectedListComma
  | expectedObjectComma
  | expectedIdentifier
  | expectedValue
  | invalidEscape
  | invalidNumber
  | numberOutOfRange
  | invalidCodePoint
  | controlCharacter
  | keyNotString
  | loneSurrogate
  | trailingComma
  | trailingCharacters
  | unfinishedSurrogate
  | tooDeep
deriving DecidableEq, Repr

/-- The wording of a cause. -/
def Cause.message : Cause → String
  | .endInList => "EOF while parsing a list"
  | .endInObject => "EOF while parsing an object"
  | .endInString => "EOF while parsing a string"
  | .endInValue => "EOF while parsing a value"
  | .expectedColon => "expected `:`"
  | .expectedListComma => "expected `,` or `]`"
  | .expectedObjectComma => "expected `,` or `\x7d`"
  | .expectedIdentifier => "expected ident"
  | .expectedValue => "expected value"
  | .invalidEscape => "invalid escape"
  | .invalidNumber => "invalid number"
  | .numberOutOfRange => "number out of range"
  | .invalidCodePoint => "invalid unicode code point"
  | .controlCharacter => "control character (\\u0000-\\u001F) found while parsing a string"
  | .keyNotString => "key must be a string"
  | .loneSurrogate => "lone leading surrogate in hex escape"
  | .trailingComma => "trailing comma"
  | .trailingCharacters => "trailing characters"
  | .unfinishedSurrogate => "unexpected end of hex escape"
  | .tooDeep => "recursion limit exceeded"

/-- A cause at a byte offset. -/
structure Fault where
  cause : Cause
  offset : Nat
deriving DecidableEq, Repr

/-- A place in a text. -/
structure Position where
  line : Nat
  column : Nat
deriving DecidableEq, Repr

/-- The place that lies one byte further. -/
def Position.advance (position : Position) (byte : UInt8) : Position :=
  if byte == 10 then ⟨position.line + 1, 0⟩ else ⟨position.line, position.column + 1⟩

/-- The place of a byte offset. -/
def position (text : ByteArray) (offset : Nat) : Position :=
  (text.extract 0 offset).foldl Position.advance ⟨1, 0⟩

/-- A message with the place that it is about. -/
def located (text : ByteArray) (offset : Nat) (message : String) : String :=
  let place := position text offset
  message ++ " at line " ++ decimal place.line ++ " column " ++ decimal place.column

/-- The report of a fault. -/
def Fault.report (text : ByteArray) (fault : Fault) : String :=
  located text fault.offset fault.cause.message

end Scribe.Json
