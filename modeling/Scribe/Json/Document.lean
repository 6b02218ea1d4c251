import Scribe.Json.Basic
import Scribe.Json.Fault

/-!
# Located JSON documents

A document is a JSON text taken apart, each part with the bytes it stands at. It
reaches as far as the text can be read: where reading stops, the fault stands in
the place of the missing part. A document can so be looked through in the order
of the text, and whatever is wrong first is found first, be it the spelling or
the kind of a value.
-/

namespace Scribe.Json

/-- The offset after a closing bracket, or the fault that keeps it open. -/
abbrev Ending := Except Fault Nat

/-- A key: its name, the offset after its closing quote, and the offset where reading
goes on if the key is not followed up. -/
structure Key where
  name : String
  stop : Nat
  resume : Nat
deriving DecidableEq, Repr

/-- A value with the offsets it stands at. -/
inductive Document
  | null (start stop : Nat)
  | bool (value : Bool) (start stop : Nat)
  | number (value : Number) (start stop : Nat)
  | string (value : String) (start stop : Nat)
  | array (start : Nat) (items : List Document) (ending : Ending)
  | object (start : Nat) (members : List (Key × Document)) (ending : Ending)
  | missing (start : Nat) (lead : Option UInt8) (reason : Fault)
deriving Inhabited

namespace Document

/-- Offset where a part begins. -/
def start : Document → Nat
  | .null start _ => start
  | .bool _ start _ => start
  | .number _ start _ => start
  | .string _ start _ => start
  | .array start _ _ => start
  | .object start _ _ => start
  | .missing start _ _ => start

mutual

/-- The value of a document, or the first fault in it. -/
def toJson : Document → Except Fault Json
  | .null _ _ => .ok .null
  | .bool value _ _ => .ok (.bool value)
  | .number value _ _ => .ok (.number value)
  | .string value _ _ => .ok (.string value)
  | .array _ items ending =>
      match itemsToJson items, ending with
      | .error reason, _ => .error reason
      | .ok _, .error reason => .error reason
      | .ok values, .ok _ => .ok (.array values)
  | .object _ members ending =>
      match membersToJson members, ending with
      | .error reason, _ => .error reason
      | .ok _, .error reason => .error reason
      | .ok values, .ok _ => .ok (Json.ofMembers values)
  | .missing _ _ reason => .error reason

/-- The values of items. -/
def itemsToJson : List Document → Except Fault (List Json)
  | [] => .ok []
  | item :: rest =>
      match toJson item with
      | .error reason => .error reason
      | .ok value => (itemsToJson rest).map (value :: ·)

/-- The values of members under their keys. -/
def membersToJson : List (Key × Document) → Except Fault (List (String × Json))
  | [] => .ok []
  | (key, item) :: rest =>
      match toJson item with
      | .error reason => .error reason
      | .ok value => (membersToJson rest).map ((key.name, value) :: ·)

end

mutual

/-- A value as a document; it has no text, so every offset is zero. -/
def ofJson : Json → Document
  | .null => .null 0 0
  | .bool value => .bool value 0 0
  | .number value => .number value 0 0
  | .string value => .string value 0 0
  | .array items => .array 0 (itemsOfJson items) (.ok 0)
  | .object members => .object 0 (membersOfJson members) (.ok 0)

/-- Values as items. -/
def itemsOfJson : List Json → List Document
  | [] => []
  | item :: rest => ofJson item :: itemsOfJson rest

/-- Values under keys as members. -/
def membersOfJson : List (String × Json) → List (Key × Document)
  | [] => []
  | (key, value) :: rest => (⟨key, 0, 0⟩, ofJson value) :: membersOfJson rest

end

end Document

end Scribe.Json
