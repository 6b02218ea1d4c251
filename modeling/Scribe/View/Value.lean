import Scribe.Json.Access
import Scribe.Json.Printer
import Scribe.Text.Numeral
import Scribe.Text.Utf8
import Scribe.Time.Span

/-!
# Views of plain values

Values as JSON, for looking into a worker from outside, and values from JSON. Bytes are
text where they are one and hexadecimal digits elsewhere; spans are seconds and
nanoseconds; doubles are shown by their bits.
-/

namespace Scribe.View

open Scribe.Text

/-! ## Showing -/

/-- An object. -/
def object (members : List (String × Json)) : Json := .ofMembers members

/-- A count. -/
def count (value : Nat) : Json := .ofInt value

/-- Items, each shown in one way. -/
def list {α : Type} (shown : α → Json) (values : List α) : Json := .array (values.map shown)

/-- A value that may be missing. -/
def optional {α : Type} (shown : α → Json) (value : Option α) : Json :=
  (value.map shown).getD .null

/-- The bits of a double; all that are no number are one. -/
def bits (value : Float) : Json :=
  .string (if value.isNaN then "nan" else hex 16 value.toBits.toNat)

/-- Bytes. -/
def bytes (content : ByteArray) : Json :=
  match ofUtf8? content with
  | some text => .string text
  | none => object [("hex", .string (hexOfBytes content))]

/-- A span. -/
def span (span : Time.Span) : Json :=
  object [("secs", count span.seconds), ("nanos", count span.subsecond)]

/-! ## Taking -/

mutual

/-- Bytes from a text, from hexadecimal digits, or from copies of other bytes. -/
def bytes? : Json → Option ByteArray
  | .string text => some text.toUTF8
  | .object members =>
      match (Json.lookup? "hex" members).bind Json.string? with
      | some digits => bytesOfHex digits.toList
      | none =>
          let copies := ((Json.lookup? "n" members).bind Json.nat?).getD 0
          (piece? members).map fun piece =>
            (List.replicate copies piece).foldl (· ++ ·) ByteArray.empty
  | _ => none

/-- The bytes that are to be copied. -/
def piece? : List (String × Json) → Option ByteArray
  | [] => none
  | (key, value) :: rest => if key = "repeat" then bytes? value else piece? rest

end

/-- The bytes under a key. -/
def bytesAt? (json : Json) (key : String) : Option ByteArray := bytes? (json.field key)

/-- The bytes under a key, or none of them. -/
def bytesAt (json : Json) (key : String) : ByteArray :=
  (bytesAt? json key).getD ByteArray.empty

/-- A span from milliseconds, or from seconds and nanoseconds. -/
def span? (json : Json) : Option Time.Span :=
  match (json.field "secs").nat? with
  | some seconds => some ⟨seconds * Time.Span.perSecond + json.natAt "nanos" 0⟩
  | none => json.nat?.map Time.Span.ofMillis

/-- The span under a key, or a default. -/
def spanAt (json : Json) (key : String) (fallback : Time.Span) : Time.Span :=
  (span? (json.field key)).getD fallback

/-- A double from a number, or from the name of one that has no digits. -/
def float? : Json → Option Float
  | .string "nan" => some (0.0 / 0.0)
  | .string "inf" => some (1.0 / 0.0)
  | .string "-inf" => some (-1.0 / 0.0)
  | json => json.float?

/-- The double under a key, or a default. -/
def floatAt (json : Json) (key : String) (fallback : Float) : Float :=
  (float? (json.field key)).getD fallback

/-- The texts under a key. -/
def textsAt (json : Json) (key : String) : List String :=
  (json.itemsAt key).filterMap Json.string?

end Scribe.View
