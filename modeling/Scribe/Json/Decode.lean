import Scribe.Json.Printer
import Scribe.Json.Reader
import Scribe.Text.Quoted

/-!
# Decoding documents

Decoding binds a document to a kind of value. Either the text is broken before the
decision falls, or the value is of the wrong kind; both are reported with the place
where they are noticed. A record may be written as an object or as the list of its
fields; its object has no unknown and no repeated key.
-/

namespace Scribe.Json

open Scribe.Text

/-- A value that is not of the expected kind. -/
inductive Found
  | null
  | bool (value : Bool)
  | number (value : Number)
  | string (value : String)
  | sequence
  | map

/-- How a value of the wrong kind is spoken of. -/
def Found.describe : Found → String
  | .null => "null"
  | .bool true => "boolean `true`"
  | .bool false => "boolean `false`"
  | .number (.integer value) => "integer `" ++ signedDecimal value ++ "`"
  | .number (.real value) => "floating point `" ++ (Number.real value).render ++ "`"
  | .string value => "string " ++ quote value
  | .sequence => "sequence"
  | .map => "map"

/-- Why a value cannot be bound. -/
inductive Mismatch
  | kind (found : Found) (expected : String)
  | value (found : Found) (expected : String)
  | length (count : Nat) (expected : String)
  | missingField (name : String)
  | unknownField (name : String) (known : List String)
  | duplicateField (name : String)
  | unknownVariant (name : String) (known : List String)
  | malformed (reason : String)

/-- Names between marks, as a choice. -/
def choice : List String → String
  | [] => "there are no fields"
  | [only] => "`" ++ only ++ "`"
  | [first, second] => "`" ++ first ++ "` or `" ++ second ++ "`"
  | names => "one of " ++ String.intercalate ", " (names.map fun name => "`" ++ name ++ "`")

/-- The wording of a mismatch. -/
def Mismatch.message : Mismatch → String
  | .kind found expected => "invalid type: " ++ found.describe ++ ", expected " ++ expected
  | .value found expected => "invalid value: " ++ found.describe ++ ", expected " ++ expected
  | .length count expected =>
      "invalid length " ++ decimal count ++ ", expected " ++ expected
  | .missingField name => "missing field `" ++ name ++ "`"
  | .unknownField name known =>
      "unknown field `" ++ name ++ "`, expected " ++ choice known
  | .duplicateField name => "duplicate field `" ++ name ++ "`"
  | .unknownVariant name known =>
      "unknown variant `" ++ name ++ "`, expected " ++ choice known
  | .malformed reason => reason

/-- Why a document cannot be decoded. -/
inductive DecodeError
  | broken (fault : Fault)
  | mismatch (reason : Mismatch) (offset : Nat)

/-- The report on a text. -/
def DecodeError.report (text : ByteArray) : DecodeError → String
  | .broken fault => fault.report text
  | .mismatch reason offset => located text offset reason.message

/-- The report on a value, which has no places. -/
def DecodeError.message : DecodeError → String
  | .broken fault => fault.cause.message
  | .mismatch reason _ => reason.message

/-- Result of decoding. -/
abbrev Decoded (α : Type) := Except DecodeError α

namespace Document

/-- The error of meeting a document where something else was expected. A bracket is
noticed when it opens, any other value when it has been read. -/
def reject {α : Type} (document : Document) (expected : String) : Decoded α :=
  match document with
  | .null _ stop => .error (.mismatch (.kind .null expected) stop)
  | .bool value _ stop => .error (.mismatch (.kind (.bool value) expected) stop)
  | .number value _ stop => .error (.mismatch (.kind (.number value) expected) stop)
  | .string value _ stop => .error (.mismatch (.kind (.string value) expected) stop)
  | .array start _ _ => .error (.mismatch (.kind .sequence expected) start)
  | .object start _ _ => .error (.mismatch (.kind .map expected) start)
  | .missing _ _ fault => .error (.broken fault)

/-- A string. -/
def decodeString : Document → Decoded String
  | .string value _ _ => .ok value
  | other => other.reject "a string"

/-- A string that another reader makes sense of. -/
def decodeText {α : Type} (expected : String) (read : String → Except Mismatch α) :
    Document → Decoded α
  | .string value _ stop =>
      match read value with
      | .ok result => .ok result
      | .error reason => .error (.mismatch reason stop)
  | other => other.reject expected

/-- An integer between bounds. -/
def decodeInt (expected : String) (low high : Int) : Document → Decoded Int
  | .number (.integer value) _ stop =>
      if low ≤ value ∧ value ≤ high then .ok value
      else .error (.mismatch (.value (.number (.integer value)) expected) stop)
  | other => other.reject expected

/-- The double nearest to an integer of 64 bits. -/
def floatOfInt (value : Int) : Float :=
  if value < 0 then -(UInt64.ofNat value.natAbs).toFloat
  else (UInt64.ofNat value.natAbs).toFloat

/-- A double; an integer stands for the nearest one. -/
def decodeFloat : Document → Decoded Float
  | .number (.integer value) _ _ => .ok (floatOfInt value)
  | .number (.real value) _ _ => .ok value
  | other => other.reject "f64"

/-- Any value. -/
def decodeJson (document : Document) : Decoded Json :=
  match document.toJson with
  | .ok value => .ok value
  | .error fault => .error (.broken fault)

/-- Null or a value. -/
def decodeOption {α : Type} (decode : Document → Decoded α) : Document → Decoded (Option α)
  | .null _ _ => .ok none
  | other => (decode other).map some

/-- A name out of several. -/
def variant {α : Type} (names : List String) (ofName? : String → Option α)
    (name : String) (offset : Nat) : Decoded α :=
  match ofName? name with
  | some value => .ok value
  | none => .error (.mismatch (.unknownVariant name names) offset)

/-- The error of finding no value, at an offset. -/
def expectValue {α : Type} (offset : Nat) : Decoded α :=
  .error (.broken ⟨.expectedValue, offset⟩)

/-- Nothing, written as null. -/
def decodeUnit : Document → Decoded Unit
  | .null _ _ => .ok ()
  | other => other.reject "unit"

/-- One of several names: a string, or an object with the name as its only key and
null as its value. -/
def decodeVariant {α : Type} (names : List String) (ofName? : String → Option α) :
    Document → Decoded α
  | .string name _ stop => variant names ofName? name stop
  | .object _ [] (.ok stop) => expectValue stop
  | .object _ [] (.error fault) =>
      .error (.broken (if fault.cause = .keyNotString then ⟨.expectedValue, fault.offset⟩
        else fault))
  | .object _ ((key, document) :: rest) ending =>
      match variant names ofName? key.name key.stop with
      | .error reason => .error reason
      | .ok value =>
          match decodeUnit document with
          | .error reason => .error reason
          | .ok _ =>
              match rest, ending, document with
              | [], .ok _, _ => .ok value
              | [], .error fault, _ =>
                  .error (.broken (if fault.cause = .endInObject then fault
                    else ⟨.expectedValue, fault.offset - 1⟩))
              | _ :: _, _, .null _ stop => expectValue stop
              | _ :: _, _, other => expectValue other.start
  | .missing start lead fault =>
      match lead with
      | none => .error (.broken fault)
      | some byte => if byte == 34 then .error (.broken fault) else expectValue (start + 1)
  | other => expectValue (other.start + 1)

/-- Go through the fields of a record written as an object. Each member is put into
the draft of the record. -/
def decodeMembers {δ : Type} (put : δ → Key → Document → Decoded δ) :
    δ → List (Key × Document) → Decoded δ
  | draft, [] => .ok draft
  | draft, (key, document) :: rest =>
      match put draft key document with
      | .error reason => .error reason
      | .ok draft => decodeMembers put draft rest

/-- Go through the fields of a record written as a list. -/
def decodeItems {δ : Type} (put : δ → Key → Document → Decoded δ) :
    δ → List String → List Document → Decoded (δ × List String × List Document)
  | draft, name :: names, item :: rest =>
      match put draft ⟨name, item.start, item.start⟩ item with
      | .error reason => .error reason
      | .ok draft => decodeItems put draft names rest
  | draft, names, rest => .ok (draft, names, rest)

/-- Decode a record. `put` stores a field, `finish` builds the record and names the
field that is missing, and a list may leave out the last `optional` fields. -/
def decodeRecord {δ ρ : Type} (name : String) (names : List String) (optional : Nat)
    (empty : δ) (put : δ → Key → Document → Decoded δ) (finish : δ → Except Mismatch ρ) :
    Document → Decoded ρ
  | .object _ members ending =>
      match decodeMembers put empty members with
      | .error reason => .error reason
      | .ok draft =>
          match ending with
          | .error fault => .error (.broken fault)
          | .ok stop =>
              match finish draft with
              | .error reason => .error (.mismatch reason stop)
              | .ok record => .ok record
  | .array _ items ending =>
      match decodeItems put empty names items with
      | .error reason => .error reason
      | .ok (draft, left, extra) =>
          if optional < left.length then
            match ending with
            | .error fault => .error (.broken fault)
            | .ok stop =>
                let expected := "struct " ++ name ++ " with " ++ decimal names.length ++ " elements"
                .error (.mismatch (.length items.length expected) stop)
          else
            match extra, ending with
            | next :: _, _ => .error (.broken ⟨.trailingCharacters, next.start + 1⟩)
            | [], .error fault =>
                .error (.broken (if left.isEmpty ∧ fault.cause = .expectedListComma then
                  ⟨.trailingCharacters, fault.offset⟩ else fault))
            | [], .ok stop =>
                match finish draft with
                | .error reason => .error (.mismatch reason stop)
                | .ok record => .ok record
  | other => other.reject ("struct " ++ name)

end Document

/-- Put a decoded value into an empty place of a draft; a place is filled only once. -/
def fillField {α : Type} (key : Key) (place : Option α) (decoded : Decoded α) :
    Decoded (Option α) :=
  match place with
  | some _ => .error (.mismatch (.duplicateField key.name) key.resume)
  | none => decoded.map some

/-- The error of a key that no field has. -/
def unknownField {α : Type} (names : List String) (key : Key) : Decoded α :=
  .error (.mismatch (.unknownField key.name names) key.resume)

/-- The value of a place that has to be filled. -/
def requireField {α : Type} (name : String) : Option α → Except Mismatch α
  | some value => .ok value
  | none => .error (.missingField name)

/-- Read a text that holds one value of a kind and nothing else. -/
def readAs {α : Type} (decode : Document → Decoded α) (text : ByteArray) :
    Except String α :=
  let (document, stop) := readDocument text
  match decode document with
  | .error reason => .error (reason.report text)
  | .ok value =>
      match trailing? text stop with
      | some fault => .error (fault.report text)
      | none => .ok value

end Scribe.Json
