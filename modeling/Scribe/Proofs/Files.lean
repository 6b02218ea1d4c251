import Mathlib.Data.List.Basic
import Scribe.Files

/-!
# Paths and removals

A path is taken apart at its slashes.  A name without slashes that is joined to a directory is
one name more, so the path leads to a child of the directory.  A file that is removed leaves all
other paths as they were.
-/

namespace Scribe

/-! ## Paths -/

/-- A name that stands for a child of the directory that it is joined to. -/
structure IsOrdinary (name : String) : Prop where
  slashless : '/' ∉ name.toList
  nonempty : name ≠ ""
  moves : name ≠ "."

namespace Path

theorem ofText_empty : ofText "" = [] := by decide

/-- A slash separates the names before it from those behind it. -/
theorem ofText_slash (front back : String) :
    ofText (front ++ "/" ++ back) = ofText front ++ ofText back := by
  have whole : (front ++ "/" ++ back).toList = front.toList ++ '/' :: back.toList := by
    rw [String.toList_append, String.toList_append, List.append_assoc]
    rfl
  rw [ofText, whole, List.splitOn_eq_splitOnP, List.splitOnP_append_cons _ _ (by decide),
    List.map_append, List.filter_append, ← List.splitOn_eq_splitOnP, ← List.splitOn_eq_splitOnP]
  rfl

theorem ofText_ordinary {name : String} (ordinary : IsOrdinary name) : ofText name = [name] := by
  have whole : name.toList.splitOn '/' = [name.toList] := by
    rw [List.splitOn_eq_splitOnP]
    refine List.splitOnP_eq_singleton fun c member => ?_
    exact beq_false_of_ne fun slash => ordinary.slashless (slash ▸ member)
  simp [ofText, whole, ordinary.nonempty, ordinary.moves]

/-- An ordinary name is joined with a slash, where the directory does not end with one. -/
theorem join_ordinary {name : String} (directory : String) (ordinary : IsOrdinary name) :
    (join directory name = directory ++ name ∧
      (directory = "" ∨ ∃ front, directory = front ++ "/")) ∨
    join directory name = directory ++ "/" ++ name := by
  have relative : name.toList.head? ≠ some '/' :=
    fun slash => ordinary.slashless (List.mem_of_head? slash)
  rw [join, if_neg relative]
  split
  next closed =>
    refine Or.inl ⟨rfl, ?_⟩
    cases last : directory.toList.getLast? with
    | none =>
        rw [List.getLast?_eq_none_iff, String.toList_eq_nil_iff] at last
        exact Or.inl last
    | some c =>
        rw [last, Option.all_some, beq_iff_eq] at closed
        obtain ⟨front, whole⟩ := List.getLast?_eq_some_iff.mp last
        refine Or.inr ⟨String.ofList front, String.toList_inj.mp ?_⟩
        rw [whole, closed, String.toList_append, String.toList_ofList]
        rfl
  next => exact Or.inr rfl

/-- The path to an ordinary name in a directory has this name behind those of the directory. -/
theorem ofText_join {name : String} (directory : String) (ordinary : IsOrdinary name) :
    ofText (join directory name) = ofText directory ++ [name] := by
  rcases join_ordinary directory ordinary with ⟨joined, rfl | ⟨front, rfl⟩⟩ | joined
  · rw [joined, String.empty_append, ofText_empty, ofText_ordinary ordinary]
    rfl
  · have closed : ofText (front ++ "/") = ofText front := by
      rw [← String.append_empty (s := front ++ "/"), ofText_slash, ofText_empty, List.append_nil]
    rw [joined, ofText_slash, closed, ofText_ordinary ordinary]
  · rw [joined, ofText_slash, ofText_ordinary ordinary]

end Path

/-! ## Removals -/

namespace Files

theorem content?_remove (files : Files) (removed path : Path) :
    (files.remove removed).content? path = if path = removed then none else files.content? path := by
  unfold content? remove
  rw [List.find?_filter]
  split
  next same =>
    subst same
    rw [Option.map_eq_none_iff, List.find?_eq_none]
    intro entry _
    simp
  next differs =>
    congr 2
    funext entry
    by_cases here : entry.1 = path
    · simp [here, differs]
    · simp [here]

theorem content?_removeAll (removed : List Path) (files : Files) (path : Path) :
    (removed.foldl remove files).content? path =
      if path ∈ removed then none else files.content? path := by
  induction removed generalizing files with
  | nil => simp
  | cons first rest ih =>
      rw [List.foldl_cons, ih, content?_remove]
      by_cases later : path ∈ rest <;> by_cases here : path = first <;> simp [later, here]

theorem directories_removeAll (removed : List Path) (files : Files) :
    (removed.foldl remove files).directories = files.directories := by
  induction removed generalizing files with
  | nil => rfl
  | cons first rest ih => exact ih (files.remove first)

end Files

end Scribe
