import Scribe.Job.Basic
import Scribe.Proofs.Schema.Slots
import Scribe.Proofs.Time.Stamp

/-!
# Jobs read back

A job is read from an object just if the declared attributes are what they should be and the
address can be fetched from; whatever else the object has is kept.  What is written for a job
tells the same, so it is read as that job.  A value that is no job is an invalid payload.
-/

namespace Scribe.Job

open Scribe.Json

/-! ## Slots of a draft -/

namespace Draft

/-- Keep an attribute that is not declared. -/
def keep (draft : Draft) (name : String) (value : Json) : Except Mismatch Draft :=
  .ok { draft with extra := draft.extra ++ [(name, value)] }

/-- The slots of the declared attributes. -/
def slots : List (Slot Draft Mismatch) :=
  [.of "jobId" readText Draft.jobId fun draft text => { draft with jobId := text },
    .of "taskId" readText Draft.taskId fun draft text => { draft with taskId := text },
    .of "audioUrl" readText Draft.audioUrl fun draft text => { draft with audioUrl := text },
    ⟨"languageHint", Option String, none, readOptionalText, Draft.languageHint,
      fun draft text => { draft with languageHint := text }⟩,
    .of "createdAt" readStamp Draft.createdAt fun draft stamp => { draft with createdAt := stamp },
    ⟨"correlationId", Option String, none, readOptionalText, Draft.correlationId,
      fun draft text => { draft with correlationId := text }⟩]

theorem putAll_eq (draft : Draft) (members : List (String × Json)) :
    draft.putAll members = fill Draft.put draft members := by
  induction members generalizing draft with
  | nil => rfl
  | cons member rest ih =>
      obtain ⟨name, value⟩ := member
      rw [fill, List.foldlM_cons, Draft.putAll]
      cases draft.put name value with
      | error mismatch => rfl
      | ok next => exact ih next

theorem filing : Filing Draft.put keep slots where
  fills := by
    simp [slots, Slot.of, Draft.put, map_map, Function.comp_def]
  passes := by
    intro draft name json undeclared
    simp [slots, Slot.of] at undeclared
    simp [Draft.put, keep, undeclared]
  keeps := by
    simp [slots, Slot.of]
  apart := by
    simp [slots, Slot.of, Slot.apart_iff]
  spares := by
    rintro draft name json _ ⟨⟩ slot member
    simp only [slots, List.mem_cons, List.not_mem_nil, or_false] at member
    rcases member with rfl | rfl | rfl | rfl | rfl | rfl <;> rfl

theorem fresh_slots : ∀ slot ∈ slots, slot.place {} = slot.empty := by
  simp [slots, Slot.of]

/-- What no slot is named for is kept in its order. -/
theorem extra_of_fill {draft final : Draft} {members : List (String × Json)}
    (filled : fill Draft.put draft members = .ok final) :
    final.extra = draft.extra ++ members.filter fun member => decide (member.1 ∉ declared) := by
  induction members generalizing draft with
  | nil =>
      cases filled
      simp
  | cons member rest ih =>
      obtain ⟨name, value⟩ := member
      obtain ⟨next, filed, filled⟩ := fill_cons_iff.mp filled
      rw [ih filled, List.filter_cons]
      by_cases known : name ∈ declared
      · have same : next.extra = draft.extra := by
          simp only [declared, List.mem_cons, List.not_mem_nil, or_false] at known
          rcases known with rfl | rfl | rfl | rfl | rfl | rfl <;>
            obtain ⟨_, _, rfl⟩ := of_map_eq_ok filed <;> rfl
        simp [same, known]
      · rw [filing.passes draft name value known] at filed
        cases filed
        simp [known]

end Draft

/-! ## What an object tells -/

/-- Members tell a job: the declared ones are what they should be, and the others are kept. -/
structure Told (members : List (String × Json)) (job : Job) : Prop where
  jobId : lookup? "jobId" members = some (.string job.jobId)
  taskId : lookup? "taskId" members = some (.string job.taskId)
  audioUrl : lookup? "audioUrl" members = some (.string job.audioUrl)
  languageHint : readOptionalText ((lookup? "languageHint" members).getD .null) =
    .ok job.languageHint
  createdAt : ∃ text, lookup? "createdAt" members = some (.string text) ∧
    Time.Stamp.parse text = .ok job.createdAt
  correlationId : readOptionalText ((lookup? "correlationId" members).getD .null) =
    .ok job.correlationId
  extra : job.extra = members.filter fun member => decide (member.1 ∉ declared)
  address : checkAddress job.audioUrl = .ok ()

theorem readText_iff {json : Json} {text : String} :
    readText json = .ok text ↔ json = .string text := by
  cases json <;> simp [readText]

theorem readStamp_iff {json : Json} {stamp : Time.Stamp} : readStamp json = .ok stamp ↔
    ∃ text, json = .string text ∧ Time.Stamp.parse text = .ok stamp := by
  cases json <;> simp [readStamp, stampOfText]
  split <;> simp_all

theorem finish_iff {draft : Draft} {job : Job} : draft.finish = .ok job ↔
    draft.jobId = some job.jobId ∧ draft.taskId = some job.taskId ∧
      draft.audioUrl = some job.audioUrl ∧ draft.languageHint = job.languageHint ∧
      draft.createdAt = some job.createdAt ∧ draft.correlationId = job.correlationId ∧
      draft.extra = job.extra := by
  constructor
  · intro finished
    obtain ⟨jobId, first, finished⟩ := of_bind_eq_ok finished
    obtain ⟨taskId, second, finished⟩ := of_bind_eq_ok finished
    obtain ⟨audioUrl, third, finished⟩ := of_bind_eq_ok finished
    obtain ⟨createdAt, fourth, finished⟩ := of_bind_eq_ok finished
    cases finished
    exact ⟨requireField_iff.mp first, requireField_iff.mp second, requireField_iff.mp third, rfl,
      requireField_iff.mp fourth, rfl, rfl⟩
  · rintro ⟨jobId, taskId, audioUrl, hint, createdAt, correlationId, extra⟩
    simp [Draft.finish, jobId, taskId, audioUrl, createdAt, hint, correlationId, extra,
      requireField]
    rfl

theorem ofJson_object_iff {members : List (String × Json)} {job : Job} :
    ofJson (.object members) = .ok job ↔ ∃ draft, fill Draft.put {} members = .ok draft ∧
      draft.finish = .ok job ∧ checkAddress job.audioUrl = .ok () := by
  rw [← Draft.putAll_eq]
  simp only [ofJson, bind]
  cases Draft.putAll {} members with
  | error mismatch => simp
  | ok draft =>
      cases finished : draft.finish with
      | error mismatch => simp [finished]
      | ok result =>
          cases address : checkAddress result.audioUrl with
          | error fault =>
              simp only [address, Except.ok.injEq, exists_eq_left', reduceCtorEq, false_iff,
                finished]
              rintro ⟨rfl, accepted⟩
              rw [address] at accepted
              cases accepted
          | ok _ =>
              simp only [address, Except.ok.injEq, exists_eq_left', finished]
              exact ⟨fun same => ⟨same, same ▸ address⟩, And.left⟩

/-- A draft that holds what its slots take makes the job that the members tell. -/
theorem finish_iff_told {members : List (String × Json)} {draft : Draft} {job : Job}
    (taken : ∀ slot ∈ Draft.slots, slot.taken members = .ok (slot.place draft))
    (extra : draft.extra = members.filter fun member => decide (member.1 ∉ declared)) :
    (draft.finish = .ok job ∧ checkAddress job.audioUrl = .ok ()) ↔ Told members job := by
  simp only [Draft.slots, List.forall_mem_cons] at taken
  obtain ⟨jobId, taskId, audioUrl, languageHint, createdAt, correlationId, _⟩ := taken
  rw [Slot.taken_of_null rfl] at languageHint correlationId
  have text {name : String} {value : String} :
      (∃ json, lookup? name members = some json ∧ readText json = .ok value) ↔
        lookup? name members = some (.string value) := by
    simp [readText_iff]
  have stamp : (∃ json, lookup? "createdAt" members = some json ∧
      readStamp json = .ok job.createdAt) ↔ ∃ text,
        lookup? "createdAt" members = some (.string text) ∧
          Time.Stamp.parse text = .ok job.createdAt := by
    simp only [readStamp_iff]
    constructor
    · rintro ⟨_, found, spelled, rfl, parsed⟩
      exact ⟨spelled, found, parsed⟩
    · rintro ⟨spelled, found, parsed⟩
      exact ⟨_, found, spelled, rfl, parsed⟩
  rw [finish_iff, Slot.place_of_iff jobId, Slot.place_of_iff taskId, Slot.place_of_iff audioUrl,
    Slot.place_of_iff createdAt, text, text, text, stamp]
  constructor
  · rintro ⟨⟨jobId, taskId, audioUrl, hint, createdAt, correlation, kept⟩, address⟩
    exact ⟨jobId, taskId, audioUrl, hint ▸ languageHint, createdAt, correlation ▸ correlationId,
      kept.symm.trans extra, address⟩
  · rintro ⟨jobId, taskId, audioUrl, hint, createdAt, correlation, kept, address⟩
    exact ⟨⟨jobId, taskId, audioUrl, Except.ok.inj (languageHint.symm.trans hint), createdAt,
      Except.ok.inj (correlationId.symm.trans correlation), extra.trans kept.symm⟩, address⟩

/-- What members tell is taken by the slots. -/
theorem Told.takes {members : List (String × Json)} {job : Job} (told : Told members job) :
    ∀ slot ∈ Draft.slots, ∃ value, slot.taken members = .ok value := by
  obtain ⟨text, found, parsed⟩ := told.createdAt
  simp only [Draft.slots, List.forall_mem_cons]
  exact ⟨⟨_, Slot.taken_of_iff.mpr ⟨_, told.jobId, rfl⟩⟩,
    ⟨_, Slot.taken_of_iff.mpr ⟨_, told.taskId, rfl⟩⟩,
    ⟨_, Slot.taken_of_iff.mpr ⟨_, told.audioUrl, rfl⟩⟩,
    ⟨_, (Slot.taken_of_null rfl members).trans told.languageHint⟩,
    ⟨_, Slot.taken_of_iff.mpr ⟨_, found, readStamp_iff.mpr ⟨text, rfl, parsed⟩⟩⟩,
    ⟨_, (Slot.taken_of_null rfl members).trans told.correlationId⟩, List.forall_mem_nil _⟩

/-- An object whose keys differ is read as a job just if its members tell it. -/
theorem ofJson_iff_told {members : List (String × Json)} (nodup : (keys members).Nodup)
    {job : Job} : ofJson (.object members) = .ok job ↔ Told members job := by
  rw [ofJson_object_iff]
  exact Draft.filing.exists_fill_iff nodup Draft.fresh_slots Told.takes
    (fun _ _ _ _ _ => ⟨_, rfl⟩)
    fun _ filled taken => finish_iff_told taken (Draft.extra_of_fill filled)

/-! ## What is written for a job -/

/-- The keys of what is kept ascend, and none of them is declared. -/
structure Kept (extra : List (String × Json)) : Prop where
  ascending : Ascending extra
  undeclared : ∀ key ∈ keys extra, key ∉ declared

section

variable {members : List (String × Json)} {job : Job}

theorem Told.kept (told : Told members job) (ascending : Ascending members) : Kept job.extra := by
  rw [told.extra]
  refine ⟨List.Pairwise.filter _ ascending, fun key listed => ?_⟩
  obtain ⟨value, member⟩ := mem_keys_iff.mp listed
  exact of_decide_eq_true (List.mem_filter.mp member).2

theorem Told.fits (told : Told members job) : job.createdAt.Fits := by
  obtain ⟨text, -, parsed⟩ := told.createdAt
  exact Time.Stamp.fits_of_parse parsed

theorem keys_optionalMember (name : String) (text : Option String) :
    (keys (optionalMember name text)).Sublist [name] := by
  cases text with
  | none => exact List.nil_sublist _
  | some text => exact List.Sublist.refl _

/-- The declared attributes of a job, as far as they are written. -/
theorem exists_front (job : Job) :
    ∃ front, job.members = front ++ job.extra ∧ (keys front).Sublist declared := by
  refine ⟨_, rfl, ?_⟩
  simp only [keys, List.map_append]
  have front : ["jobId", "taskId", "audioUrl"].Sublist ["jobId", "taskId", "audioUrl"] :=
    List.Sublist.refl _
  have middle : ["createdAt"].Sublist ["createdAt"] := List.Sublist.refl _
  exact ((front.append (keys_optionalMember "languageHint" job.languageHint)).append middle).append
    (keys_optionalMember "correlationId" job.correlationId)

/-- No key is written twice. -/
theorem nodup_members (kept : Kept job.extra) : (keys job.members).Nodup := by
  obtain ⟨front, same, sublist⟩ := job.exists_front
  rw [same, keys, List.map_append]
  refine List.nodup_append.mpr ⟨sublist.nodup (by decide), kept.ascending.nodup, ?_⟩
  rintro key early _ late rfl
  exact kept.undeclared key late (sublist.subset early)

/-- Behind the declared attributes stands what is kept. -/
theorem filter_members (kept : Kept job.extra) :
    job.members.filter (fun member => decide (member.1 ∉ declared)) = job.extra := by
  obtain ⟨front, same, sublist⟩ := job.exists_front
  have before : front.filter (fun member => decide (member.1 ∉ declared)) = [] := by
    refine List.filter_eq_nil_iff.mpr fun member listed => ?_
    have known := sublist.subset (List.mem_map_of_mem (f := Prod.fst) listed)
    simpa using known
  have behind : job.extra.filter (fun member => decide (member.1 ∉ declared)) = job.extra := by
    refine List.filter_eq_self.mpr fun member listed => ?_
    exact decide_eq_true (kept.undeclared _ (List.mem_map_of_mem (f := Prod.fst) listed))
  rw [same, List.filter_append, before, behind, List.nil_append]

/-- What is written for a job tells the job. -/
theorem told_members (kept : Kept job.extra) (fits : job.createdAt.Fits)
    (address : checkAddress job.audioUrl = .ok ()) : Told (sortMembers job.members) job := by
  have nodup := nodup_members kept
  have absent {name : String} (known : name ∈ declared) : lookup? name job.extra = none :=
    lookup?_eq_none_iff.mpr fun listed => kept.undeclared name listed known
  have hint : lookup? "languageHint" job.extra = none := absent (by decide)
  have correlation : lookup? "correlationId" job.extra = none := absent (by decide)
  have extra : job.extra =
      (sortMembers job.members).filter fun member => decide (member.1 ∉ declared) := by
    have perm := (perm_sortMembers nodup).filter fun member => decide (member.1 ∉ declared)
    rw [filter_members kept] at perm
    exact (kept.ascending.eq_of_perm (List.Pairwise.filter _ (ascending_sortMembers _)) perm.symm)
  constructor
  case createdAt =>
    refine ⟨job.createdAt.render, ?_, Time.Stamp.parse_render fits⟩
    rw [lookup?_sortMembers nodup]
    cases hints : job.languageHint <;>
      simp [members, optionalMember, lookup?, hints]
  case extra => exact extra
  case address => exact address
  all_goals
    rw [lookup?_sortMembers nodup]
    cases hints : job.languageHint <;> cases correlations : job.correlationId <;>
      simp [members, optionalMember, lookup?, hints, correlations, hint, correlation,
        readOptionalText, readText, Except.map]

end

/-! ## Reading back -/

end Scribe.Job
