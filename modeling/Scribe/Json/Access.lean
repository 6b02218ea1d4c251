import Scribe.Json.Decode

/-!
# Looking into JSON values

Parts of a value by key and kind. A part that is missing or of another kind is none, or
gives way to a default.
-/

namespace Scribe.Json

/-- The value of a key, or null. -/
def field (json : Json) (key : String) : Json :=
  (json.get? key).getD .null

/-- Whether a key has a value other than null. -/
def has (json : Json) (key : String) : Bool :=
  match json.field key with
  | .null => false
  | _ => true

/-- The integer of a number. -/
def int? : Json → Option Int
  | .number (.integer value) => some value
  | _ => none

/-- The integer of a number that is not negative. -/
def nat? (json : Json) : Option Nat :=
  json.int?.bind fun value => if 0 ≤ value then some value.toNat else none

/-- The truth value of a value. -/
def bool? : Json → Option Bool
  | .bool value => some value
  | _ => none

/-- The double of a number; an integer stands for the nearest one. -/
def float? : Json → Option Float
  | .number (.integer value) => some (Document.floatOfInt value)
  | .number (.real value) => some value
  | _ => none

/-- The items of a list. -/
def items : Json → List Json
  | .array items => items
  | _ => []

/-- The text under a key. -/
def textAt? (json : Json) (key : String) : Option String :=
  (json.field key).string?

/-- The text under a key, or a default. -/
def textAt (json : Json) (key fallback : String) : String :=
  (json.textAt? key).getD fallback

/-- The number under a key, or a default. -/
def natAt (json : Json) (key : String) (fallback : Nat) : Nat :=
  (json.field key).nat?.getD fallback

/-- The integer under a key, or a default. -/
def intAt (json : Json) (key : String) (fallback : Int) : Int :=
  (json.field key).int?.getD fallback

/-- The truth value under a key, or a default. -/
def boolAt (json : Json) (key : String) (fallback : Bool) : Bool :=
  (json.field key).bool?.getD fallback

/-- The items under a key. -/
def itemsAt (json : Json) (key : String) : List Json :=
  (json.field key).items

/-- The item at an index, or null. -/
def itemAt (json : Json) (index : Nat) : Json :=
  (json.items[index]?).getD .null

end Scribe.Json
