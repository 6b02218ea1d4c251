import Scribe.Dedup.Window

/-!
# What a window holds

To put an id in adds no other id, and with room for it it pushes none out.  While nothing in a
window is too old, an id is found in it exactly if the window holds it.
-/

namespace Scribe.Dedup.Window

/-- The ids that a window holds, the one inserted least recently first. -/
def ids (window : Window) : List String :=
  window.entries.map Entry.id

/-- At a time nothing that a window holds is too old. -/
def IsFresh (window : Window) (now : Time.Span) : Prop :=
  ∀ entry ∈ window.entries, window.isLive now entry = true

theorem contains_iff {window : Window} {now : Time.Span} {id : String}
    (fresh : window.IsFresh now) : window.contains now id = true ↔ id ∈ window.ids := by
  simp only [contains, ids, List.any_eq_true, List.mem_map, Bool.and_eq_true, beq_iff_eq]
  constructor
  · rintro ⟨entry, member, same, _⟩
    exact ⟨entry, member, same⟩
  · rintro ⟨entry, member, same⟩
    exact ⟨entry, member, same, fresh entry member⟩

theorem mem_ids_of_insert {window : Window} {now : Time.Span} {id other : String}
    (inside : other ∈ (window.insert now id).ids) : other ∈ window.ids ∨ other = id := by
  obtain ⟨entry, member, rfl⟩ := List.mem_map.mp inside
  have live := (List.mem_filter.mp (List.mem_of_mem_drop member)).1
  rcases List.mem_append.mp live with kept | new
  · exact Or.inl (List.mem_map_of_mem (List.mem_filter.mp kept).1)
  · obtain rfl := List.mem_singleton.mp new
    exact Or.inr rfl

theorem isFresh_insert (window : Window) (now : Time.Span) (id : String) :
    (window.insert now id).IsFresh now := by
  intro entry member
  exact (List.mem_filter.mp (List.mem_of_mem_drop member)).2

/-- While nothing is too old and there is room for one more id, to put an id in pushes none
out. -/
theorem mem_ids_insert {window : Window} {now : Time.Span} {id other : String}
    (fresh : window.IsFresh now) (lasting : 0 < window.lifetime.nanos)
    (room : window.entries.length < window.capacity)
    (inside : other ∈ window.ids ∨ other = id) : other ∈ (window.insert now id).ids := by
  let entries := window.entries.filter (fun entry => entry.id != id) ++ [⟨id, now⟩]
  have fits : entries.length ≤ window.capacity := by
    have fewer := List.length_filter_le (fun entry => entry.id != id) window.entries
    rw [List.length_append, List.length_singleton]
    omega
  have live : entries.filter (window.isLive now) = entries := by
    rw [List.filter_eq_self]
    intro entry member
    rcases List.mem_append.mp member with old | new
    · exact fresh entry (List.mem_filter.mp old).1
    · obtain rfl := List.mem_singleton.mp new
      simp [isLive, lasting]
  have kept : (window.insert now id).entries = entries := by
    change (entries.filter (window.isLive now)).drop
      ((entries.filter (window.isLive now)).length - window.capacity) = entries
    rw [live, Nat.sub_eq_zero_of_le fits, List.drop_zero]
  rw [ids, kept, List.map_append, List.mem_append]
  by_cases same : other = id
  · exact Or.inr (List.mem_singleton.mpr same)
  · left
    obtain ⟨entry, member, rfl⟩ := List.mem_map.mp (inside.resolve_right same)
    exact List.mem_map_of_mem (List.mem_filter.mpr ⟨member, bne_iff_ne.mpr same⟩)

end Scribe.Dedup.Window
