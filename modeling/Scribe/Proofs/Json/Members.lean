import Scribe.Decimal.Layout
import Scribe.Json.Document

/-!
# Members of an object

Sorting members whose keys differ only changes their order, and leaves members that ascend as
they are.  What stands under a key does not hang on the order.  In a proper value the members
of every object ascend and every double is finite; such a value is its own document's value.
-/

namespace Scribe.Json

variable {members others : List (String × Json)} {key : String} {value : Json}

/-! ## Keys -/

/-- The keys of members in their order. -/
def keys (members : List (String × Json)) : List String :=
  members.map Prod.fst

theorem mem_keys_of_mem (member : (key, value) ∈ members) : key ∈ keys members :=
  List.mem_map.mpr ⟨(key, value), member, rfl⟩

theorem mem_keys_iff : key ∈ keys members ↔ ∃ value, (key, value) ∈ members := by
  constructor
  · intro listed
    obtain ⟨⟨_, value⟩, member, rfl⟩ := List.mem_map.mp listed
    exact ⟨value, member⟩
  · rintro ⟨value, member⟩
    exact mem_keys_of_mem member

theorem perm_keys (perm : members.Perm others) : (keys members).Perm (keys others) :=
  perm.map Prod.fst

/-- The keys ascend, so that none of them stands twice. -/
def Ascending (members : List (String × Json)) : Prop :=
  members.Pairwise fun one other => one.1 < other.1

theorem Ascending.nodup (ascending : Ascending members) : (keys members).Nodup := by
  refine List.pairwise_map.mpr (ascending.imp ?_)
  intro one other below same
  exact String.lt_irrefl _ (same ▸ below)

/-- Ascending members are told by what they are. -/
theorem Ascending.eq_of_perm (ascending : Ascending members) (ascends : Ascending others)
    (perm : members.Perm others) : members = others :=
  perm.eq_of_pairwise (fun _ _ _ _ below above => absurd above (String.lt_asymm below)) ascending
    ascends

theorem lookup?_eq_none_iff : lookup? key members = none ↔ key ∉ keys members := by
  induction members with
  | nil => simp [lookup?, keys]
  | cons member rest ih =>
      rw [lookup?]
      split
      next same => simp [keys, same]
      next differs =>
        rw [ih]
        simp [keys, Ne.symm differs]

theorem lookup?_eq_some_iff (nodup : (keys members).Nodup) :
    lookup? key members = some value ↔ (key, value) ∈ members := by
  induction members with
  | nil => simp [lookup?]
  | cons member rest ih =>
      obtain ⟨first, held⟩ := member
      obtain ⟨fresh, nodup⟩ := List.nodup_cons.mp nodup
      rw [lookup?, List.mem_cons, Prod.mk.injEq]
      split
      next same =>
        have absent : (key, value) ∉ rest := fun later => fresh (same ▸ mem_keys_of_mem later)
        simp [same, absent, eq_comm]
      next differs => simp [ih nodup, Ne.symm differs]

/-- What stands under a key does not hang on the order. -/
theorem lookup?_perm (nodup : (keys members).Nodup) (perm : members.Perm others) (key : String) :
    lookup? key members = lookup? key others := by
  refine Option.ext fun value => ?_
  rw [lookup?_eq_some_iff nodup, lookup?_eq_some_iff ((perm_keys perm).nodup_iff.mp nodup),
    perm.mem_iff]

/-! ## Sorting -/

theorem perm_insert (fresh : key ∉ keys members) :
    (insert key value members).Perm ((key, value) :: members) := by
  induction members with
  | nil => exact List.Perm.refl _
  | cons member rest ih =>
      obtain ⟨other, old⟩ := member
      have differs : key ≠ other := fun same => fresh (same ▸ List.mem_cons_self)
      have later : key ∉ keys rest := fun listed => fresh (List.mem_cons_of_mem _ listed)
      simp only [insert, if_neg differs]
      split
      · exact List.Perm.refl _
      · exact ((ih later).cons _).trans (List.Perm.swap _ _ _)

theorem mem_insert {member : String × Json} (listed : member ∈ insert key value members) :
    member = (key, value) ∨ member ∈ members := by
  induction members with
  | nil => exact Or.inl (List.mem_singleton.mp listed)
  | cons first rest ih =>
      rw [insert] at listed
      split at listed
      · exact List.mem_cons.mp listed
      · split at listed
        · exact (List.mem_cons.mp listed).imp_right (List.mem_cons_of_mem _)
        · rcases List.mem_cons.mp listed with same | later
          · exact Or.inr (same ▸ List.mem_cons_self)
          · exact (ih later).imp_right (List.mem_cons_of_mem _)

theorem Ascending.insert (ascending : Ascending members) (key : String) (value : Json) :
    Ascending (insert key value members) := by
  induction members with
  | nil => exact List.pairwise_singleton _ _
  | cons first rest ih =>
      obtain ⟨other, old⟩ := first
      obtain ⟨above, tail⟩ := List.pairwise_cons.mp ascending
      rw [Json.insert]
      split
      next below =>
        refine List.pairwise_cons.mpr ⟨fun member listed => ?_, ascending⟩
        rcases List.mem_cons.mp listed with rfl | later
        · exact below
        · exact String.lt_trans below (above member later)
      next notBelow =>
        split
        next same =>
          subst same
          exact List.pairwise_cons.mpr ⟨above, tail⟩
        next differs =>
          refine List.pairwise_cons.mpr ⟨fun member listed => ?_, ih tail⟩
          rcases mem_insert listed with rfl | later
          · exact Std.lt_of_le_of_ne (String.not_lt.mp notBelow) (Ne.symm differs)
          · exact above member later

/-- Members put in one after another. -/
theorem ascending_foldl_insert (ascending : Ascending members) :
    Ascending (others.foldl (fun sorted member => insert member.1 member.2 sorted) members) := by
  induction others generalizing members with
  | nil => exact ascending
  | cons member rest ih => exact ih (ascending.insert member.1 member.2)

theorem perm_foldl_insert (nodup : (keys (others ++ members)).Nodup) :
    (others.foldl (fun sorted member => insert member.1 member.2 sorted) members).Perm
      (others ++ members) := by
  induction others generalizing members with
  | nil => exact List.Perm.refl _
  | cons member rest ih =>
      obtain ⟨key, value⟩ := member
      have front : (rest ++ (key, value) :: members).Perm ((key, value) :: rest ++ members) :=
        List.perm_middle
      have fresh : key ∉ keys members := by
        have spread := (perm_keys front).nodup_iff.mpr nodup
        rw [keys, List.map_append] at spread
        exact (List.nodup_cons.mp (List.nodup_append.mp spread).2.1).1
      have put : (rest ++ insert key value members).Perm (rest ++ (key, value) :: members) :=
        (perm_insert fresh).append_left rest
      have later := ih ((perm_keys (put.trans front)).nodup_iff.mpr nodup)
      exact later.trans (put.trans front)

theorem ascending_sortMembers (members : List (String × Json)) : Ascending (sortMembers members) :=
  ascending_foldl_insert List.Pairwise.nil

/-- Sorting only changes the order. -/
theorem perm_sortMembers (nodup : (keys members).Nodup) : (sortMembers members).Perm members := by
  have all : members ++ [] = members := List.append_nil members
  have sorted : (sortMembers members).Perm (members ++ []) := perm_foldl_insert (all.symm ▸ nodup)
  rwa [all] at sorted

theorem sortMembers_of_ascending (ascending : Ascending members) : sortMembers members = members :=
  (ascending_sortMembers members).eq_of_perm ascending (perm_sortMembers ascending.nodup)

theorem lookup?_sortMembers (nodup : (keys members).Nodup) (key : String) :
    lookup? key (sortMembers members) = lookup? key members :=
  (lookup?_perm nodup (perm_sortMembers nodup).symm key).symm

/-! ## Proper values -/

mutual

/-- A value whose objects have ascending keys and whose doubles are finite. -/
def Proper : Json → Prop
  | .number (.real value) => Decimal.isFinite value = true
  | .array items => ProperItems items
  | .object members => Ascending members ∧ ProperMembers members
  | _ => True

/-- Every item is proper. -/
def ProperItems : List Json → Prop
  | [] => True
  | item :: rest => Proper item ∧ ProperItems rest

/-- Every value of a member is proper. -/
def ProperMembers : List (String × Json) → Prop
  | [] => True
  | (_, value) :: rest => Proper value ∧ ProperMembers rest

end

theorem properMembers_iff : ProperMembers members ↔ ∀ member ∈ members, member.2.Proper := by
  induction members with
  | nil => simp [ProperMembers]
  | cons member rest ih =>
      obtain ⟨key, value⟩ := member
      rw [ProperMembers, ih, List.forall_mem_cons]

mutual

/-- A proper value is the value of its document. -/
theorem toJson_ofJson : ∀ {json : Json}, Proper json → (Document.ofJson json).toJson = .ok json
  | .null, _ => rfl
  | .bool _, _ => rfl
  | .number _, _ => rfl
  | .string _, _ => rfl
  | .array items, proper => by
      simp only [Document.ofJson, Document.toJson, itemsToJson_itemsOfJson proper]
  | .object members, proper => by
      simp only [Document.ofJson, Document.toJson, membersToJson_membersOfJson proper.2, ofMembers,
        sortMembers_of_ascending proper.1]

theorem itemsToJson_itemsOfJson : ∀ {items : List Json}, ProperItems items →
    Document.itemsToJson (Document.itemsOfJson items) = .ok items
  | [], _ => rfl
  | item :: rest, proper => by
      rw [Document.itemsOfJson, Document.itemsToJson, toJson_ofJson proper.1]
      simp only [itemsToJson_itemsOfJson proper.2, Except.map]

theorem membersToJson_membersOfJson : ∀ {members : List (String × Json)}, ProperMembers members →
    Document.membersToJson (Document.membersOfJson members) = .ok members
  | [], _ => rfl
  | (key, value) :: rest, proper => by
      rw [Document.membersOfJson, Document.membersToJson, toJson_ofJson proper.1]
      simp only [membersToJson_membersOfJson proper.2, Except.map]

end

end Scribe.Json
