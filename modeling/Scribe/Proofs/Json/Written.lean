import Scribe.Retry.DeadLetter

/-!
# Written values can be told apart

What stands for a character inside a string is never the beginning of what stands for
another one, and the closing quote begins none of them.  So a written string can be told from
what follows it, and two objects that are written alike begin with the same texts.
-/

namespace Scribe.Json

/-- The characters that do not stand as they are inside a string. -/
def specials : List Char :=
  '"' :: '\\' :: (List.range 32).map Char.ofNat

theorem mem_specials_of_lt {c : Char} (low : c.toNat < 32) : c ∈ specials := by
  have listed : Char.ofNat c.toNat ∈ (List.range 32).map Char.ofNat :=
    List.mem_map_of_mem (List.mem_range.mpr low)
  rw [Char.ofNat_toNat] at listed
  exact List.mem_cons_of_mem _ (List.mem_cons_of_mem _ listed)

theorem escape_of_plain {c : Char} (plain : c ∉ specials) : escape c = [c] := by
  have high : ¬ c.toNat < 32 := fun low => plain (mem_specials_of_lt low)
  have eight : c.toNat ≠ 8 := by omega
  have twelve : c.toNat ≠ 12 := by omega
  have differs : ∀ special ∈ specials, c ≠ special := by
    intro special member same
    exact plain (same ▸ member)
  simp only [escape, if_neg high, if_neg eight, if_neg twelve,
    if_neg (differs '"' (by decide)), if_neg (differs '\\' (by decide)),
    if_neg (differs '\n' (by decide)), if_neg (differs '\r' (by decide)),
    if_neg (differs '\t' (by decide))]

theorem escape_of_special {c : Char} (special : c ∈ specials) :
    (escape c).head? = some '\\' := by
  have checked : specials.all (fun c => (escape c).head? == some '\\') = true := by decide
  exact beq_iff_eq.mp (List.all_eq_true.mp checked c special)

theorem escape_prefix_free {c d : Char} (specialC : c ∈ specials) (specialD : d ∈ specials)
    (begins : escape c <+: escape d) : c = d := by
  have checked : specials.all (fun c => specials.all fun d =>
      !(escape c).isPrefixOf (escape d) || c == d) = true := by decide
  have pair := List.all_eq_true.mp (List.all_eq_true.mp checked c specialC) d specialD
  rw [List.isPrefixOf_iff_prefix.mpr begins] at pair
  exact beq_iff_eq.mp pair

/-- A special character and a plain one are not written alike. -/
theorem escape_ne_of_plain {c d : Char} {early late : List Char} (special : c ∈ specials)
    (plain : d ∉ specials) : escape c ++ early ≠ escape d ++ late := by
  intro same
  have first := congrArg List.head? same
  rw [escape_of_plain plain, List.head?_append, escape_of_special special] at first
  injection first with backslash
  exact plain (backslash ▸ by decide)

theorem escape_append_inj {c d : Char} {early late : List Char}
    (same : escape c ++ early = escape d ++ late) : c = d ∧ early = late := by
  have one : c = d := by
    by_cases specialC : c ∈ specials
    · by_cases specialD : d ∈ specials
      · -- Both begin the same text, so one of them begins the other.
        have within : escape c <+: escape d ++ late := ⟨early, same⟩
        rcases List.prefix_or_prefix_of_prefix within (List.prefix_append _ _) with
          shorter | longer
        · exact escape_prefix_free specialC specialD shorter
        · exact (escape_prefix_free specialD specialC longer).symm
      · exact absurd same (escape_ne_of_plain specialC specialD)
    · by_cases specialD : d ∈ specials
      · exact absurd same.symm (escape_ne_of_plain specialD specialC)
      · rw [escape_of_plain specialC, escape_of_plain specialD] at same
        injection same
  subst one
  exact ⟨rfl, List.append_cancel_left same⟩

/-- The closing quote begins no character. -/
theorem escape_ne_quote (c : Char) (early late : List Char) :
    escape c ++ early ≠ '"' :: late := by
  intro same
  have first := congrArg List.head? same
  by_cases special : c ∈ specials
  · rw [List.head?_append, escape_of_special special] at first
    cases first
  · rw [escape_of_plain special] at first
    injection first with quote
    exact special (quote ▸ by decide)

theorem flatMap_escape_inj {text other : List Char} {early late : List Char}
    (same : text.flatMap escape ++ '"' :: early = other.flatMap escape ++ '"' :: late) :
    text = other ∧ early = late := by
  induction text generalizing other with
  | nil =>
      cases other with
      | nil =>
          injection same with _ rest
          exact ⟨rfl, rest⟩
      | cons d others =>
          rw [List.flatMap_cons, List.append_assoc] at same
          exact absurd same.symm (escape_ne_quote d _ _)
  | cons c rest ih =>
      cases other with
      | nil =>
          rw [List.flatMap_cons, List.append_assoc] at same
          exact absurd same (escape_ne_quote c _ _)
      | cons d others =>
          rw [List.flatMap_cons, List.flatMap_cons, List.append_assoc, List.append_assoc] at same
          obtain ⟨rfl, later⟩ := escape_append_inj same
          obtain ⟨rfl, behind⟩ := ih later
          exact ⟨rfl, behind⟩

/-- A written string can be told from what follows it. -/
theorem quoted_append_inj {text other early late : String}
    (same : quoted text ++ early = quoted other ++ late) : text = other ∧ early = late := by
  have chars := congrArg String.toList same
  simp only [quoted, String.toList_append, String.toList_ofList, List.append_assoc,
    List.append_cancel_left_eq] at chars
  obtain ⟨texts, rest⟩ := flatMap_escape_inj chars
  exact ⟨String.toList_inj.mp texts, String.toList_inj.mp rest⟩

/-- Members that are written alike begin with the same key and, if texts stand first, with
the same text. -/
theorem renderMembers_string_inj {key otherKey text otherText early late : String}
    {next otherNext : String × Json} {rest otherRest : List (String × Json)}
    (same : renderMembers ((key, .string text) :: next :: rest) ++ early =
      renderMembers ((otherKey, .string otherText) :: otherNext :: otherRest) ++ late) :
    key = otherKey ∧ text = otherText ∧
      renderMembers (next :: rest) ++ early = renderMembers (otherNext :: otherRest) ++ late := by
  simp only [renderMembers, render, String.append_assoc] at same
  obtain ⟨keys, values⟩ := quoted_append_inj same
  obtain ⟨texts, others⟩ := quoted_append_inj ((String.append_right_inj ":").mp values)
  exact ⟨keys, texts, (String.append_right_inj ",").mp others⟩

theorem renderMembers_of_bytes {members others : List (String × Json)}
    (same : (object members).bytes = (object others).bytes) :
    renderMembers members ++ "\x7d" = renderMembers others ++ "\x7d" := by
  have texts := String.toByteArray_inj.mp same
  simp only [render, String.append_assoc] at texts
  exact (String.append_right_inj "\x7b").mp texts

end Scribe.Json

namespace Scribe

open Scribe.Json

theorem ResultStatus.name_inj {status other : ResultStatus} (same : status.name = other.name) :
    status = other := by
  revert same
  cases status <;> cases other <;> decide

/-- Results that are written alike report the same end of the same job. -/
theorem JobResult.same_of_bytes {result other : JobResult}
    (same : result.toJson.bytes = other.toJson.bytes) :
    result.jobId = other.jobId ∧ result.status = other.status := by
  have written := renderMembers_of_bytes same
  obtain ⟨_, jobs, afterJob⟩ := renderMembers_string_inj written
  obtain ⟨_, _, afterTask⟩ := renderMembers_string_inj afterJob
  obtain ⟨_, names, _⟩ := renderMembers_string_inj afterTask
  exact ⟨jobs, ResultStatus.name_inj names⟩

/-- No dead letter is written like a result. -/
theorem DeadLetter.bytes_ne_result (letter : DeadLetter) (result : JobResult) :
    letter.toJson.bytes ≠ result.toJson.bytes := by
  intro same
  have written := renderMembers_of_bytes same
  simp only [DeadLetter.members, JobResult.members, renderMembers, String.append_assoc] at written
  obtain ⟨keys, _⟩ := quoted_append_inj written
  revert keys
  decide

end Scribe
