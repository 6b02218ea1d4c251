import Mathlib.Data.List.Pairwise
import Mathlib.Tactic.MkIffOfInductiveProp
import Scribe.Json.Decode
import Scribe.Proofs.Json.Members
import Scribe.Proofs.Outcome

/-!
# Slots of a record

A record is read from an object member by member: each member goes to the slot of its name in a
draft, and a member that no slot is named for is dealt with in another way.  If no key stands
twice, then in the end every slot holds what its member is read as, or nothing; the order of the
members does not matter.
-/

namespace Scribe.Json

variable {δ ε : Type}

/-- A place of a draft for the member of one name. -/
structure Slot (δ ε : Type) where
  name : String
  Value : Type
  empty : Value
  read : Json → Except ε Value
  place : δ → Value
  store : δ → Value → δ

/-- A slot that is empty until its member has been read. -/
def Slot.of {α : Type} (name : String) (read : Json → Except ε α) (place : δ → Option α)
    (store : δ → Option α → δ) : Slot δ ε :=
  ⟨name, Option α, none, fun json => (read json).map some, place, store⟩

theorem requireField_iff {α : Type} {name : String} {place : Option α} {value : α} :
    requireField name place = .ok value ↔ place = some value := by
  cases place <;> simp [requireField]

/-- What a slot takes from members. -/
def Slot.taken (slot : Slot δ ε) (members : List (String × Json)) : Except ε slot.Value :=
  match lookup? slot.name members with
  | none => .ok slot.empty
  | some json => slot.read json

theorem Slot.taken_of_iff {α : Type} {name : String} {read : Json → Except ε α}
    {place : δ → Option α} {store : δ → Option α → δ} {members : List (String × Json)} {value : α} :
    (Slot.of name read place store).taken members = .ok (some value) ↔
      ∃ json, lookup? name members = some json ∧ read json = .ok value := by
  simp only [Slot.taken, Slot.of]
  constructor
  · intro taken
    split at taken
    · cases taken
    next json found =>
      obtain ⟨_, read, ⟨⟩⟩ := of_map_eq_ok taken
      exact ⟨json, found, read⟩
  · rintro ⟨json, found, read⟩
    rw [found]
    simp only [read, Except.map]

theorem Slot.place_of_iff {α : Type} {name : String} {read : Json → Except ε α}
    {place : δ → Option α} {store : δ → Option α → δ} {members : List (String × Json)} {draft : δ}
    (taken : (Slot.of name read place store).taken members = .ok (place draft)) {value : α} :
    place draft = some value ↔
      ∃ json, lookup? name members = some json ∧ read json = .ok value := by
  constructor
  · intro held
    exact Slot.taken_of_iff.mp (taken.trans (congrArg Except.ok held))
  · intro read
    exact Except.ok.inj (taken.symm.trans (Slot.taken_of_iff.mpr read))

/-- Where null is read as nothing, it may be missing. -/
theorem Slot.taken_of_null {slot : Slot δ ε} (null : slot.read .null = .ok slot.empty)
    (members : List (String × Json)) :
    slot.taken members = slot.read ((lookup? slot.name members).getD .null) := by
  rw [Slot.taken]
  split
  next missing => rw [missing, Option.getD_none, null]
  next json found => rw [found, Option.getD_some]

/-- To store in either of two slots leaves the other one alone. -/
@[mk_iff]
structure Slot.Apart (one other : Slot δ ε) : Prop where
  name : one.name ≠ other.name
  left : ∀ draft value, one.place (other.store draft value) = one.place draft
  right : ∀ draft value, other.place (one.store draft value) = other.place draft

instance : Std.Symm (@Slot.Apart δ ε) :=
  ⟨fun _ _ apart => ⟨apart.name.symm, apart.right, apart.left⟩⟩

/-- Put members into a draft in their order. -/
def fill (put : δ → String → Json → Except ε δ) (draft : δ) (members : List (String × Json)) :
    Except ε δ :=
  members.foldlM (fun draft member => put draft member.1 member.2) draft

theorem fill_cons_iff {put : δ → String → Json → Except ε δ} {draft final : δ} {name : String}
    {json : Json} {rest : List (String × Json)} :
    fill put draft ((name, json) :: rest) = .ok final ↔
      ∃ next, put draft name json = .ok next ∧ fill put next rest = .ok final := by
  constructor
  · exact of_bind_eq_ok
  · rintro ⟨next, filed, filled⟩
    rw [fill, List.foldlM_cons, filed]
    exact filled

/-- Members are put into the slots of their names; what no slot is named for is dealt with
otherwise. -/
structure Filing (put otherwise : δ → String → Json → Except ε δ) (slots : List (Slot δ ε)) :
    Prop where
  fills : ∀ slot ∈ slots, ∀ draft json, slot.place draft = slot.empty →
    put draft slot.name json = (slot.read json).map (slot.store draft)
  passes : ∀ draft name json, name ∉ slots.map Slot.name →
    put draft name json = otherwise draft name json
  keeps : ∀ slot ∈ slots, ∀ draft value, slot.place (slot.store draft value) = value
  apart : slots.Pairwise Slot.Apart
  spares : ∀ draft name json next, otherwise draft name json = .ok next →
    ∀ slot ∈ slots, slot.place next = slot.place draft

namespace Filing

variable {put otherwise : δ → String → Json → Except ε δ} {slots : List (Slot δ ε)}
variable {draft next final : δ} {members : List (String × Json)} {name : String} {json : Json}
variable {slot other : Slot δ ε}

theorem store_other (filing : Filing put otherwise slots) (member : slot ∈ slots)
    (stored : other ∈ slots) (differs : slot.name ≠ other.name) (value : other.Value) :
    slot.place (other.store draft value) = slot.place draft := by
  have apart := filing.apart.forall member stored
    fun same => differs (congrArg Slot.name same)
  exact apart.left draft value

theorem eq_of_name (filing : Filing put otherwise slots) (member : slot ∈ slots)
    (listed : other ∈ slots) (same : slot.name = other.name) : slot = other := by
  by_contra differs
  exact (filing.apart.forall member listed differs).name same

/-- The slots that members are still to come for are empty. -/
def Fresh (slots : List (Slot δ ε)) (draft : δ) (members : List (String × Json)) : Prop :=
  ∀ slot ∈ slots, slot.name ∈ keys members → slot.place draft = slot.empty

/-- One member fills the slot of its name and leaves the others as they are. -/
theorem step (filing : Filing put otherwise slots) (filed : put draft name json = .ok next)
    (fresh : Fresh slots draft ((name, json) :: members)) (member : slot ∈ slots) :
    (slot.name = name → slot.read json = .ok (slot.place next)) ∧
      (slot.name ≠ name → slot.place next = slot.place draft) := by
  by_cases known : name ∈ slots.map Slot.name
  · obtain ⟨target, listed, rfl⟩ := List.mem_map.mp known
    rw [filing.fills target listed draft json (fresh target listed List.mem_cons_self)] at filed
    obtain ⟨value, read, rfl⟩ := of_map_eq_ok filed
    constructor
    · intro same
      obtain rfl := filing.eq_of_name member listed same
      rw [read, filing.keeps slot listed]
    · intro differs
      exact filing.store_other member listed differs value
  · rw [filing.passes draft name json known] at filed
    exact ⟨fun same => absurd (same ▸ List.mem_map_of_mem member) known,
      fun _ => filing.spares draft name json next filed slot member⟩

theorem fresh_step (filing : Filing put otherwise slots) (unlisted : name ∉ keys members)
    (filed : put draft name json = .ok next) (fresh : Fresh slots draft ((name, json) :: members)) :
    Fresh slots next members := by
  intro slot member key
  have differs : slot.name ≠ name := fun same => unlisted (same ▸ key)
  rw [(filing.step filed fresh member).2 differs]
  exact fresh slot member (List.mem_cons_of_mem _ key)

/-- In the end a slot holds what its member is read as; without one it is left as it was. -/
theorem place_of_fill (filing : Filing put otherwise slots) (nodup : (keys members).Nodup)
    (fresh : Fresh slots draft members)
    (filled : fill put draft members = .ok final) (member : slot ∈ slots) :
    (∀ json, lookup? slot.name members = some json → slot.read json = .ok (slot.place final)) ∧
      (lookup? slot.name members = none → slot.place final = slot.place draft) := by
  induction members generalizing draft with
  | nil =>
      cases filled
      exact ⟨fun _ found => (nomatch found), fun _ => rfl⟩
  | cons first rest ih =>
      obtain ⟨name, json⟩ := first
      obtain ⟨unlisted, nodup⟩ := List.nodup_cons.mp nodup
      obtain ⟨next, filed, filled⟩ := fill_cons_iff.mp filled
      have stepped := filing.step filed fresh member
      have later := ih nodup (filing.fresh_step unlisted filed fresh) filled
      rw [lookup?]
      split
      next same =>
        have absent : lookup? slot.name rest = none := lookup?_eq_none_iff.mpr (same ▸ unlisted)
        refine ⟨?_, fun none => by cases none⟩
        rintro _ ⟨⟩
        rw [later.2 absent]
        exact stepped.1 same.symm
      next differs =>
        refine ⟨later.1, fun none => ?_⟩
        rw [later.2 none, stepped.2 (Ne.symm differs)]

/-- In the end a slot holds what it takes from the members. -/
theorem taken_of_fill (filing : Filing put otherwise slots) (nodup : (keys members).Nodup)
    (fresh : ∀ slot ∈ slots, slot.place draft = slot.empty)
    (filled : fill put draft members = .ok final) (member : slot ∈ slots) :
    slot.taken members = .ok (slot.place final) := by
  have placed := filing.place_of_fill nodup (fun slot member _ => fresh slot member) filled member
  rw [Slot.taken]
  split
  next absent => rw [placed.2 absent, fresh slot member]
  next json present => exact placed.1 json present

theorem exists_fill_of_fresh (filing : Filing put otherwise slots) (nodup : (keys members).Nodup)
    (fresh : Fresh slots draft members)
    (read : ∀ slot ∈ slots, ∀ json, (slot.name, json) ∈ members →
      ∃ value, slot.read json = .ok value)
    (others : ∀ member ∈ members, member.1 ∉ slots.map Slot.name →
      ∀ draft, ∃ next, otherwise draft member.1 member.2 = .ok next) :
    ∃ final, fill put draft members = .ok final := by
  induction members generalizing draft with
  | nil => exact ⟨draft, rfl⟩
  | cons first rest ih =>
      obtain ⟨name, json⟩ := first
      obtain ⟨unlisted, nodup⟩ := List.nodup_cons.mp nodup
      obtain ⟨next, filed⟩ : ∃ next, put draft name json = .ok next := by
        by_cases known : name ∈ slots.map Slot.name
        · obtain ⟨target, listed, rfl⟩ := List.mem_map.mp known
          obtain ⟨value, decoded⟩ := read target listed json List.mem_cons_self
          rw [filing.fills target listed draft json (fresh target listed List.mem_cons_self),
            decoded]
          exact ⟨_, rfl⟩
        · rw [filing.passes draft name json known]
          exact others (name, json) List.mem_cons_self known draft
      have later : ∃ final, fill put next rest = .ok final := ih nodup
        (filing.fresh_step unlisted filed fresh)
        (fun target listed json member => read target listed json (List.mem_cons_of_mem _ member))
        (fun other member => others other (List.mem_cons_of_mem _ member))
      obtain ⟨final, filled⟩ := later
      exact ⟨final, fill_cons_iff.mpr ⟨next, filed, filled⟩⟩

/-- Members that every slot takes, and that are dealt with otherwise, are put in. -/
theorem exists_fill (filing : Filing put otherwise slots) (nodup : (keys members).Nodup)
    (fresh : ∀ slot ∈ slots, slot.place draft = slot.empty)
    (takes : ∀ slot ∈ slots, ∃ value, slot.taken members = .ok value)
    (others : ∀ member ∈ members, member.1 ∉ slots.map Slot.name →
      ∀ draft, ∃ next, otherwise draft member.1 member.2 = .ok next) :
    ∃ final, fill put draft members = .ok final := by
  refine filing.exists_fill_of_fresh nodup (fun slot member _ => fresh slot member) ?_ others
  intro slot member json listed
  obtain ⟨value, taken⟩ := takes slot member
  rw [Slot.taken, (lookup?_eq_some_iff nodup).mpr listed] at taken
  exact ⟨value, taken⟩

/-- Members are put into a draft that is as it should be just if they tell so. -/
theorem exists_fill_iff (filing : Filing put otherwise slots) (nodup : (keys members).Nodup)
    (fresh : ∀ slot ∈ slots, slot.place draft = slot.empty) {holds : δ → Prop} {Told : Prop}
    (takes : Told → ∀ slot ∈ slots, ∃ value, slot.taken members = .ok value)
    (others : Told → ∀ member ∈ members, member.1 ∉ slots.map Slot.name →
      ∀ draft, ∃ next, otherwise draft member.1 member.2 = .ok next)
    (tells : ∀ final, fill put draft members = .ok final →
      (∀ slot ∈ slots, slot.taken members = .ok (slot.place final)) → (holds final ↔ Told)) :
    (∃ final, fill put draft members = .ok final ∧ holds final) ↔ Told := by
  have taken {final} (filled : fill put draft members = .ok final) (slot) (member : slot ∈ slots) :=
    filing.taken_of_fill nodup fresh filled member
  constructor
  · rintro ⟨final, filled, held⟩
    exact (tells final filled (taken filled)).mp held
  · intro told
    obtain ⟨final, filled⟩ := filing.exists_fill nodup fresh (takes told) (others told)
    exact ⟨final, filled, (tells final filled (taken filled)).mpr told⟩

end Filing

/-! ## Records without other fields -/

section

variable {ρ : Type} {put : δ → Key → Document → Decoded δ} {finish : δ → Except Mismatch ρ}
variable {start : δ} {names : List String} {slots : List (Slot δ DecodeError)}
variable {members : List (String × Json)} {record : ρ}

/-- What is put into a draft where there is no text. -/
def unlocated (put : δ → Key → Document → Decoded δ) (draft : δ) (name : String) (json : Json) :
    Except DecodeError δ :=
  put draft ⟨name, 0, 0⟩ (Document.ofJson json)

/-- A slot whose member is decoded. -/
def Slot.decoded {α : Type} (name : String) (decode : Document → Decoded α) (place : δ → Option α)
    (store : δ → Option α → δ) : Slot δ DecodeError :=
  .of name (fun json => decode (Document.ofJson json)) place store

/-- An empty place is filled with what is decoded. -/
theorem Slot.fills_decoded {α : Type} {name : String} {decode : Document → Decoded α}
    {place : δ → Option α} {store : δ → Option α → δ} {draft : δ} {json : Json}
    (empty : place draft = none)
    (filled : put draft ⟨name, 0, 0⟩ (Document.ofJson json) = (fillField ⟨name, 0, 0⟩ (place draft)
      (decode (Document.ofJson json))).map (store draft)) :
    unlocated put draft name json =
      ((Slot.decoded name decode place store).read json).map (store draft) := by
  rw [unlocated, filled, empty]
  rfl

section

variable {α : Type} {name : String} {decode : Document → Decoded α} {draft : δ}
variable {place : δ → Option (Option α)} {store : δ → Option (Option α) → δ}

theorem Slot.decodeOption_null : (Document.ofJson .null).decodeOption decode = .ok none := rfl

/-- Of what a slot for null or a value has taken, nothing is told by null or by no member. -/
theorem Slot.join_iff
    (taken : (Slot.decoded name (Document.decodeOption decode) place store).taken members =
      .ok (place draft)) {value : Option α} :
    (place draft).join = value ↔
      (Document.ofJson ((lookup? name members).getD .null)).decodeOption decode = .ok value := by
  cases found : lookup? name members with
  | none =>
      have empty : place draft = none := by
        simpa [Slot.taken, Slot.decoded, Slot.of, found, eq_comm] using taken
      simp [empty, Slot.decodeOption_null]
  | some json =>
      have read : ((Document.ofJson json).decodeOption decode).map some = .ok (place draft) := by
        simpa [Slot.taken, Slot.decoded, Slot.of, found] using taken
      obtain ⟨held, decoded, same⟩ := of_map_eq_ok read
      rw [Option.getD_some, decoded, ← same]
      simp

theorem Slot.exists_taken_optional {value : Option α}
    (decoded : (Document.ofJson ((lookup? name members).getD .null)).decodeOption decode =
      .ok value) :
    ∃ taken, (Slot.decoded name (Document.decodeOption decode) place store).taken members =
      .ok taken := by
  cases found : lookup? name members with
  | none => exact ⟨none, by simp [Slot.taken, Slot.decoded, Slot.of, found]⟩
  | some json =>
      rw [found, Option.getD_some] at decoded
      exact ⟨some value, by simp [Slot.taken, Slot.decoded, Slot.of, found, decoded, Except.map]⟩

end

theorem Slot.exists_taken {α : Type} {name : String} {decode : Document → Decoded α}
    {place : δ → Option α} {store : δ → Option α → δ} {value : α}
    (read : ∃ json, lookup? name members = some json ∧
      decode (Document.ofJson json) = .ok value) :
    ∃ taken, (Slot.decoded name decode place store).taken members = .ok taken :=
  ⟨_, Slot.taken_of_iff.mpr read⟩

/-- Refuse a field that has no slot. -/
def refuse (names : List String) (_ : δ) (name : String) (_ : Json) : Except DecodeError δ :=
  unknownField names ⟨name, 0, 0⟩

theorem decodeMembers_membersOfJson (put : δ → Key → Document → Decoded δ) (draft : δ)
    (members : List (String × Json)) :
    Document.decodeMembers put draft (Document.membersOfJson members) =
      fill (unlocated put) draft members := by
  induction members generalizing draft with
  | nil => rfl
  | cons member rest ih =>
      obtain ⟨name, json⟩ := member
      rw [fill, List.foldlM_cons, Document.membersOfJson, Document.decodeMembers]
      simp only [unlocated]
      cases put draft ⟨name, 0, 0⟩ (Document.ofJson json) with
      | error reason => rfl
      | ok next => exact ih next

theorem decodeRecord_object_iff {name : String} {optional : Nat} :
    (Document.ofJson (.object members)).decodeRecord name names optional start put finish =
        .ok record ↔
      ∃ draft, fill (unlocated put) start members = .ok draft ∧ finish draft = .ok record := by
  rw [Document.ofJson, Document.decodeRecord, decodeMembers_membersOfJson]
  cases fill (unlocated put) start members with
  | error reason => simp
  | ok draft => cases finished : finish draft <;> simp [finished]

theorem Filing.known (filing : Filing (unlocated put) (refuse names) slots) {draft final : δ}
    (filled : fill (unlocated put) draft members = .ok final) :
    ∀ key ∈ keys members, key ∈ slots.map Slot.name := by
  induction members generalizing draft with
  | nil => exact fun _ listed => (nomatch listed)
  | cons member rest ih =>
      obtain ⟨name, json⟩ := member
      obtain ⟨next, filed, filled⟩ := fill_cons_iff.mp filled
      refine List.forall_mem_cons.mpr ⟨?_, ih filled⟩
      by_contra unknown
      rw [filing.passes draft name json unknown] at filed
      cases filed

/-- A record without other fields is read from members whose keys differ just if all of them are
fields and every slot takes what it should. -/
theorem Filing.fill_iff (filing : Filing (unlocated put) (refuse names) slots)
    (nodup : (keys members).Nodup) (fresh : ∀ slot ∈ slots, slot.place start = slot.empty)
    {Told : Prop} (takes : Told → ∀ slot ∈ slots, ∃ value, slot.taken members = .ok value)
    (tells : ∀ draft, (∀ slot ∈ slots, slot.taken members = .ok (slot.place draft)) →
      (finish draft = .ok record ↔ Told)) :
    (∃ draft, fill (unlocated put) start members = .ok draft ∧ finish draft = .ok record) ↔
      (∀ key ∈ keys members, key ∈ slots.map Slot.name) ∧ Told := by
  refine filing.exists_fill_iff nodup fresh (fun told => takes told.2) ?_ ?_
  · intro told member listed unknown
    exact absurd (told.1 _ (List.mem_map_of_mem listed)) unknown
  · intro draft filled taken
    rw [tells draft taken]
    exact ⟨fun told => ⟨filing.known filled, told⟩, And.right⟩

end

end Scribe.Json
