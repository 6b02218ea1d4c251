import Scribe.Job.Result
import Scribe.Proofs.Decimal.Finite
import Scribe.Proofs.Json.Members
import Scribe.Proofs.Outcome
import Scribe.Proofs.Time.Stamp

/-!
# Values of fields

What a value is decoded as, for each kind of field.  Some values have a spelling of their own in
which they are written again: a name may be the only key of an object, an integer may stand for
a double, and a time stamp may be that of any clock.
-/

namespace Scribe.Json

variable {α : Type} {json : Json}

/-! ## Usual spellings -/

/-- A name that is the only key of an object, as a string. -/
def plainName : Json → Json
  | .object [(name, .null)] => .string name
  | json => json

/-- The double that a number stands for. -/
def Number.double : Number → Float
  | .integer value => Document.floatOfInt value
  | .real value => value

/-- A number as a double. -/
def inDouble : Json → Json
  | .number held => .number (.real held.double)
  | json => json

/-- A time stamp in universal time. -/
def inUniversal : Json → Json
  | .string text =>
      match Time.Stamp.parse text with
      | .ok stamp => .string stamp.toUniversal.render
      | .error _ => .string text
  | json => json

/-- The double of a number of a proper value is finite. -/
theorem isFinite_double {held : Number} (proper : (number held).Proper) :
    Decimal.isFinite held.double = true := by
  cases held with
  | integer value => exact Decimal.isFinite_floatOfInt value
  | real value => exact proper

/-! ## Decoding -/

theorem decodeString_iff {text : String} :
    (Document.ofJson json).decodeString = .ok text ↔ json = .string text := by
  cases json <;> simp [Document.ofJson, Document.decodeString, Document.reject]

theorem decodeInt_iff {expected : String} {low high value : Int} :
    (Document.ofJson json).decodeInt expected low high = .ok value ↔
      json = ofInt value ∧ low ≤ value ∧ value ≤ high := by
  cases json with
  | number number =>
      cases number with
      | integer held =>
          simp only [Document.ofJson, Document.decodeInt, ofInt, number.injEq, Number.integer.injEq]
          constructor
          · intro decoded
            split at decoded
            next within =>
              cases decoded
              exact ⟨rfl, within⟩
            next => cases decoded
          · rintro ⟨rfl, within⟩
            exact if_pos within
      | real held => simp [Document.ofJson, Document.decodeInt, Document.reject, ofInt]
  | _ => simp [Document.ofJson, Document.decodeInt, Document.reject, ofInt]

theorem decodeFloat_iff {value : Float} :
    (Document.ofJson json).decodeFloat = .ok value ↔
      ∃ held, json = .number held ∧ held.double = value := by
  cases json with
  | number number =>
      cases number <;> simp [Document.ofJson, Document.decodeFloat, Number.double]
  | _ => simp [Document.ofJson, Document.decodeFloat, Document.reject]

theorem decodeOption_iff {decode : Document → Decoded α} {option : Option α} :
    (Document.ofJson json).decodeOption decode = .ok option ↔
      json = .null ∧ option = none ∨ json ≠ .null ∧
        ∃ value, decode (Document.ofJson json) = .ok value ∧ option = some value := by
  have other (json : Json) (some_ : json ≠ .null) : (Document.ofJson json).decodeOption decode =
      (decode (Document.ofJson json)).map some := by
    cases json <;> first | exact absurd rfl some_ | rfl
  by_cases null : json = .null
  · subst null
    simp [Document.ofJson, Document.decodeOption, eq_comm]
  · rw [other json null]
    cases decode (Document.ofJson json) <;> simp [null, Except.map, eq_comm]

section

variable {names : List String} {ofName? : String → Option α} {nameOf : α → String} {value : α}

theorem variant_iff (named : ∀ name value, ofName? name = some value ↔ nameOf value = name)
    {name : String} {offset : Nat} :
    Document.variant names ofName? name offset = .ok value ↔ nameOf value = name := by
  rw [← named, Document.variant]
  cases ofName? name <;> simp

theorem decodeUnit_iff : (Document.ofJson json).decodeUnit = .ok () ↔ json = .null := by
  cases json <;> simp [Document.ofJson, Document.decodeUnit, Document.reject]

theorem decodeVariant_object_iff
    (named : ∀ name value, ofName? name = some value ↔ nameOf value = name) {name : String}
    {rest : List (String × Json)} :
    (Document.ofJson (.object ((name, json) :: rest))).decodeVariant names ofName? = .ok value ↔
      json = .null ∧ rest = [] ∧ nameOf value = name := by
  rw [← variant_iff named, Document.ofJson, Document.membersOfJson, Document.decodeVariant]
  cases Document.variant names ofName? name 0 with
  | error reason => simp
  | ok found =>
      cases unit : (Document.ofJson json).decodeUnit with
      | error reason =>
          have some_ : json ≠ .null := fun null => by
            rw [decodeUnit_iff.mpr null] at unit
            cases unit
          simp [some_]
      | ok _ =>
          obtain rfl := decodeUnit_iff.mp unit
          cases rest <;> simp [Document.ofJson, Document.membersOfJson, Document.expectValue]

theorem plainName_object_iff {name text : String} {rest : List (String × Json)} :
    plainName (.object ((name, json) :: rest)) = .string text ↔
      json = .null ∧ rest = [] ∧ text = name := by
  cases json <;> cases rest <;> simp [plainName, eq_comm]

/-- A name out of several is a string or the only key of an object. -/
theorem decodeVariant_iff
    (named : ∀ name value, ofName? name = some value ↔ nameOf value = name) :
    (Document.ofJson json).decodeVariant names ofName? = .ok value ↔
      plainName json = .string (nameOf value) := by
  cases json with
  | string name =>
      have plain : plainName (.string name) = .string name := rfl
      rw [Document.ofJson, Document.decodeVariant, variant_iff named, plain, string.injEq, eq_comm]
  | object members =>
      cases members with
      | nil =>
          simp [Document.ofJson, Document.membersOfJson, Document.decodeVariant,
            Document.expectValue, plainName]
      | cons member rest => rw [decodeVariant_object_iff named, plainName_object_iff]
  | _ => simp [Document.ofJson, Document.decodeVariant, Document.expectValue, plainName]

end

/-! ## Decoding null or a value -/

theorem plainName_ofOption (text : Option String) : plainName (ofOption text) = ofOption text := by
  cases text <;> rfl

theorem plainName_eq_null_iff : plainName json = .null ↔ json = .null := by
  rw [plainName.eq_def]
  split <;> simp_all

theorem decodeOptionalText_iff {option : Option String} :
    (Document.ofJson json).decodeOption Document.decodeString = .ok option ↔
      json = ofOption option := by
  rw [decodeOption_iff]
  simp only [decodeString_iff]
  cases option with
  | none => simp [ofOption]
  | some text =>
      constructor
      · rintro (⟨-, ⟨⟩⟩ | ⟨-, _, rfl, ⟨⟩⟩)
        rfl
      · rintro rfl
        exact Or.inr ⟨by simp [ofOption], text, rfl, rfl⟩

theorem decodeOptionalFloat_iff {option : Option Float} :
    (Document.ofJson json).decodeOption Document.decodeFloat = .ok option ↔
      inDouble json = (option.map fun value => .number (.real value)).getD .null := by
  rw [decodeOption_iff]
  simp only [decodeFloat_iff]
  cases json <;> cases option <;> simp [inDouble, eq_comm]

theorem decodeOptionalVariant_iff {names : List String} {ofName? : String → Option α}
    {nameOf : α → String} {option : Option α}
    (named : ∀ name value, ofName? name = some value ↔ nameOf value = name) :
    (Document.ofJson json).decodeOption (Document.decodeVariant names ofName?) = .ok option ↔
      plainName json = ofOption (option.map nameOf) := by
  rw [decodeOption_iff]
  simp only [decodeVariant_iff named]
  cases option with
  | none => simp [ofOption, plainName_eq_null_iff]
  | some value =>
      constructor
      · rintro (⟨-, ⟨⟩⟩ | ⟨-, _, plain, ⟨⟩⟩)
        exact plain
      · intro plain
        refine Or.inr ⟨?_, value, plain, rfl⟩
        rintro rfl
        cases plain

/-- Any proper value but null is decoded as it is. -/
theorem decodeOptionalJson_iff (proper : json.Proper) {option : Option Json} :
    (Document.ofJson json).decodeOption Document.decodeJson = .ok option ↔
      json = option.getD .null ∧ option ≠ some .null := by
  rw [decodeOption_iff]
  have decoded : (Document.ofJson json).decodeJson = .ok json := by
    rw [Document.decodeJson, toJson_ofJson proper]
  rw [decoded]
  cases option with
  | none => simp
  | some value =>
      constructor
      · rintro (⟨-, ⟨⟩⟩ | ⟨some_, _, ⟨⟩, ⟨⟩⟩)
        exact ⟨rfl, fun null => some_ (Option.some.inj null)⟩
      · rintro ⟨rfl, some_⟩
        exact Or.inr ⟨fun null => some_ (congrArg some null), _, rfl, rfl⟩

/-! ## Decoding time stamps -/

theorem decodeInstant_iff {stamp : Time.Stamp} :
    JobResult.decodeInstant (Document.ofJson json) = .ok stamp ↔
      ∃ text clock, json = .string text ∧ Time.Stamp.parse text = .ok clock ∧
        clock.toUniversal = stamp := by
  cases json with
  | string text =>
      simp only [JobResult.decodeInstant, Document.ofJson, Document.decodeText, Job.stampOfText,
        string.injEq]
      cases parsed : Time.Stamp.parse text with
      | error fault => simp [Except.map, parsed]
      | ok clock => simp [Except.map, parsed]
  | _ =>
      simp [JobResult.decodeInstant, Document.ofJson, Document.decodeText, Document.reject,
        Except.map]

/-! ## Decoding what stands under a key -/

section

variable {members : List (String × Json)} {name : String}

theorem exists_string_iff {text : String} :
    (∃ json, lookup? name members = some json ∧ (Document.ofJson json).decodeString = .ok text) ↔
      lookup? name members = some (.string text) := by
  simp [decodeString_iff]

theorem exists_int_iff {expected : String} {low high value : Int} :
    (∃ json, lookup? name members = some json ∧
        (Document.ofJson json).decodeInt expected low high = .ok value) ↔
      lookup? name members = some (ofInt value) ∧ low ≤ value ∧ value ≤ high := by
  simp [decodeInt_iff]

theorem exists_instant_iff {stamp : Time.Stamp} :
    (∃ json, lookup? name members = some json ∧
        JobResult.decodeInstant (Document.ofJson json) = .ok stamp) ↔
      ∃ text clock, lookup? name members = some (.string text) ∧
        Time.Stamp.parse text = .ok clock ∧ clock.toUniversal = stamp := by
  simp only [decodeInstant_iff]
  constructor
  · rintro ⟨_, found, text, clock, rfl, parsed⟩
    exact ⟨text, clock, found, parsed⟩
  · rintro ⟨text, clock, found, parsed⟩
    exact ⟨_, found, text, clock, rfl, parsed⟩

end

end Scribe.Json
