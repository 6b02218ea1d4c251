/-!
# JSON values

Numbers are integers or doubles: an integer is one of 64 bits, signed or not, and
every other number is a finite double. The members of an object are kept in a
list; in an object that was read or merged they stand in the order of their keys
and no key stands twice.
-/

namespace Scribe

/-- A JSON number. -/
inductive Json.Number
  | integer (value : Int)
  | real (value : Float)
deriving DecidableEq

/-- A JSON value. -/
inductive Json
  | null
  | bool (value : Bool)
  | number (value : Json.Number)
  | string (value : String)
  | array (items : List Json)
  | object (members : List (String × Json))
deriving Inhabited

namespace Json

/-- Whether two numbers are the same; doubles are compared as numbers, so both
zeros are one. -/
def Number.same : Number → Number → Bool
  | .integer left, .integer right => left == right
  | .real left, .real right => left == right
  | _, _ => false

mutual

/-- Whether two values are the same up to the sign of zero. -/
def same : Json → Json → Bool
  | .null, .null => true
  | .bool left, .bool right => left == right
  | .number left, .number right => left.same right
  | .string left, .string right => left == right
  | .array left, .array right => sameItems left right
  | .object left, .object right => sameMembers left right
  | _, _ => false

/-- Whether two lists of values are the same, place by place. -/
def sameItems : List Json → List Json → Bool
  | [], [] => true
  | left :: leftRest, right :: rightRest => same left right && sameItems leftRest rightRest
  | _, _ => false

/-- Whether two lists of members are the same, place by place. -/
def sameMembers : List (String × Json) → List (String × Json) → Bool
  | [], [] => true
  | (leftKey, left) :: leftRest, (rightKey, right) :: rightRest =>
      leftKey == rightKey && same left right && sameMembers leftRest rightRest
  | _, _ => false

end

/-- Value of a key in a list of members. -/
def lookup? (key : String) : List (String × Json) → Option Json
  | [] => none
  | (other, value) :: rest => if other = key then some value else lookup? key rest

/-- Put a member at its place in the order of keys; a value that stood under the
same key gives way. -/
def insert (key : String) (value : Json) : List (String × Json) → List (String × Json)
  | [] => [(key, value)]
  | (other, old) :: rest =>
      if key < other then (key, value) :: (other, old) :: rest
      else if key = other then (key, value) :: rest
      else (other, old) :: insert key value rest

/-- Order members by key; of members with one key the last stays. -/
def sortMembers (members : List (String × Json)) : List (String × Json) :=
  members.foldl (fun sorted member => insert member.1 member.2 sorted) []

/-- Members of an object; other values have none. -/
def members : Json → List (String × Json)
  | .object members => members
  | _ => []

/-- Value of a member of an object. -/
def get? (json : Json) (key : String) : Option Json :=
  lookup? key json.members

/-- An object with the given members, ordered by key. -/
def ofMembers (members : List (String × Json)) : Json :=
  .object (sortMembers members)

/-- A whole number. -/
def ofInt (value : Int) : Json :=
  .number (.integer value)

/-- A text, or null where there is none. -/
def ofOption : Option String → Json
  | none => .null
  | some text => .string text

/-- The text of a string value. -/
def string? : Json → Option String
  | .string text => some text
  | _ => none

end Json

end Scribe
