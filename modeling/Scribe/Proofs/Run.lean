/-!
# Runs

A run takes one step after another.  What holds at first and is kept by every step holds of
the steps that were taken and of the state they led to; and each step of a run was taken from
the state that the steps before it led to.
-/

namespace Scribe

/-- What is picked out of some steps grows at its end with one step more. -/
theorem filterMap_snoc {α β : Type} (pick : α → Option β) (earlier : List α) (last : α) :
    (earlier ++ [last]).filterMap pick = earlier.filterMap pick ++ (pick last).toList := by
  rw [List.filterMap_append]
  cases told : pick last with
  | none => rw [List.filterMap_cons_none told]; rfl
  | some value => rw [List.filterMap_cons_some told]; rfl

variable {State Step : Type}

/-- Steps one after another that lead from one state to another. -/
inductive Run (leads : State → Step → State → Prop) (start : State) :
    List Step → State → Prop
  | none : Run leads start [] start
  | next {earlier : List Step} {state after : State} (run : Run leads start earlier state)
      (step : Step) (last : leads state step after) :
      Run leads start (earlier ++ [step]) after

namespace Run

variable {leads : State → Step → State → Prop} {start final : State} {steps : List Step}

/-- What every step keeps holds at the end of a run. -/
theorem invariant {holds : List Step → State → Prop} (initially : holds [] start)
    (kept : ∀ {earlier state step after}, holds earlier state → leads state step after →
      holds (earlier ++ [step]) after)
    (run : Run leads start steps final) : holds steps final := by
  induction run with
  | none => exact initially
  | next run step last ih => exact kept ih last

/-- A step of a run is taken from the state that the steps before it lead to. -/
theorem split {early late : List Step} {step : Step} (run : Run leads start steps final)
    (place : steps = early ++ step :: late) :
    ∃ before after, Run leads start early before ∧ leads before step after := by
  induction run generalizing late with
  | none =>
      cases early <;> cases place
  | @next earlier before after run other last ih =>
      rcases List.eq_nil_or_concat late with rfl | ⟨others, ultimate, rfl⟩
      · obtain ⟨rfl, same⟩ := List.append_inj' place rfl
        cases same
        exact ⟨before, after, run, last⟩
      · rw [List.concat_eq_append, ← List.cons_append, ← List.append_assoc] at place
        exact ih (List.append_inj' place rfl).1

theorem of_nil (run : Run leads start [] final) : final = start := by
  generalize place : ([] : List Step) = steps at run
  cases run with
  | none => rfl
  | next => simp at place

theorem of_singleton {step : Step} (run : Run leads start [step] final) :
    leads start step final := by
  generalize place : [step] = steps at run
  cases run with
  | none => cases place
  | @next earlier _ _ run other last =>
      obtain ⟨rfl, same⟩ := @List.append_inj' _ [] [step] earlier [other] place rfl
      cases same
      obtain rfl := run.of_nil
      exact last

/-- A run goes on where another one ended. -/
theorem append {middle : State} {early late : List Step} (first : Run leads start early middle)
    (rest : Run leads middle late final) : Run leads start (early ++ late) final := by
  induction rest with
  | none =>
      rw [List.append_nil]
      exact first
  | next run step last ih =>
      rw [← List.append_assoc]
      exact .next ih step last

/-- A run is one of its first steps, and from there one of the others. -/
theorem of_append {early late : List Step} (run : Run leads start steps final)
    (place : steps = early ++ late) :
    ∃ middle, Run leads start early middle ∧ Run leads middle late final := by
  induction run generalizing late with
  | none =>
      obtain ⟨rfl, rfl⟩ := List.append_eq_nil_iff.mp place.symm
      exact ⟨start, .none, .none⟩
  | @next earlier before after run step last ih =>
      rcases List.eq_nil_or_concat late with rfl | ⟨others, ultimate, rfl⟩
      · rw [List.append_nil] at place
        subst place
        exact ⟨after, .next run step last, .none⟩
      · rw [List.concat_eq_append, ← List.append_assoc] at place
        obtain ⟨rfl, same⟩ := List.append_inj' place rfl
        cases same
        obtain ⟨middle, first, rest⟩ := ih rfl
        rw [List.concat_eq_append]
        exact ⟨middle, first, .next rest step last⟩

end Run

end Scribe
