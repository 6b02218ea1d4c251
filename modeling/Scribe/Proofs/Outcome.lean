/-!
# Outcomes with a value

What is done in steps, each of which may fail, gives a value only if every step does.
-/

namespace Scribe

variable {ε α β γ : Type} {value : β}

theorem of_bind_eq_ok {first : Except ε α} {next : α → Except ε β}
    (ok : first >>= next = .ok value) : ∃ middle, first = .ok middle ∧ next middle = .ok value := by
  cases first with
  | error fault => cases ok
  | ok middle => exact ⟨middle, rfl, ok⟩

theorem of_map_eq_ok {first : Except ε α} {change : α → β} (ok : first.map change = .ok value) :
    ∃ middle, first = .ok middle ∧ change middle = value := by
  cases first with
  | error fault => cases ok
  | ok middle => exact ⟨middle, rfl, Except.ok.inj ok⟩

theorem map_map (first : Except ε α) (change : α → β) (next : β → γ) :
    (first.map change).map next = first.map (next ∘ change) := by
  cases first <;> rfl

end Scribe
