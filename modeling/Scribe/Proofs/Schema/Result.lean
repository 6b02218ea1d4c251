import Scribe.Proofs.Schema.Slots
import Scribe.Proofs.Schema.Values

/-!
# Results read back

A result is read from an object just if all members are fields and tell what they should.  What
is written for a result tells the result, but for a confidence that is not finite.  What is
written for a result that was read is what it was read from, each field in its usual spelling.
-/

namespace Scribe.JobResult

open Scribe.Json

/-! ## Slots of a draft -/

namespace Draft

/-- The slots of the fields. -/
def slots : List (Slot Draft DecodeError) :=
  [.decoded "jobId" Document.decodeString Draft.jobId fun draft value =>
      { draft with jobId := value },
    .decoded "taskId" Document.decodeString Draft.taskId fun draft value =>
      { draft with taskId := value },
    .decoded "status" decodeStatus Draft.status fun draft value => { draft with status := value },
    .decoded "transcriptText" decodeOptionalText Draft.transcriptText fun draft value =>
      { draft with transcriptText := value },
    .decoded "detectedLanguage" decodeOptionalText Draft.detectedLanguage fun draft value =>
      { draft with detectedLanguage := value },
    .decoded "confidence" (Document.decodeOption Document.decodeFloat) Draft.confidence
      fun draft value => { draft with confidence := value },
    .decoded "engine" Document.decodeString Draft.engine fun draft value =>
      { draft with engine := value },
    .decoded "modelVersion" Document.decodeString Draft.modelVersion fun draft value =>
      { draft with modelVersion := value },
    .decoded "errorCode" (Document.decodeOption decodeCode) Draft.errorCode fun draft value =>
      { draft with errorCode := value },
    .decoded "errorMessage" decodeOptionalText Draft.errorMessage fun draft value =>
      { draft with errorMessage := value },
    .decoded "completedAt" decodeInstant Draft.completedAt fun draft value =>
      { draft with completedAt := value },
    .decoded "correlationId" decodeOptionalText Draft.correlationId fun draft value =>
      { draft with correlationId := value }]

theorem filing : Filing (unlocated Draft.put) (refuse fieldNames) slots where
  fills := by
    simp only [slots, List.forall_mem_cons]
    refine ⟨?_, ?_, ?_, ?_, ?_, ?_, ?_, ?_, ?_, ?_, ?_, ?_, List.forall_mem_nil _⟩ <;>
      exact fun draft json empty => Slot.fills_decoded empty rfl
  passes := by
    intro draft name json unknown
    simp [slots, Slot.decoded, Slot.of] at unknown
    simp [unlocated, Draft.put, refuse, unknown]
  keeps := by
    simp [slots, Slot.decoded, Slot.of]
  apart := by
    simp [slots, Slot.decoded, Slot.of, Slot.apart_iff]
  spares := by
    intro draft name json next refused
    cases refused

theorem fresh_slots : ∀ slot ∈ slots, slot.place {} = slot.empty := by
  simp [slots, Slot.decoded, Slot.of]

end Draft

/-! ## What an object tells -/

/-- Members tell a result, where null stands for what is missing. -/
@[mk_iff]
structure Told (members : List (String × Json)) (result : JobResult) : Prop where
  jobId : lookup? "jobId" members = some (.string result.jobId)
  taskId : lookup? "taskId" members = some (.string result.taskId)
  status : (lookup? "status" members).map plainName = some (.string result.status.name)
  transcriptText : (lookup? "transcriptText" members).getD .null = ofOption result.transcriptText
  detectedLanguage : (lookup? "detectedLanguage" members).getD .null =
    ofOption result.detectedLanguage
  confidence : inDouble ((lookup? "confidence" members).getD .null) =
    (result.confidence.map fun value => .number (.real value)).getD .null
  engine : lookup? "engine" members = some (.string result.engine)
  modelVersion : lookup? "modelVersion" members = some (.string result.modelVersion)
  errorCode : plainName ((lookup? "errorCode" members).getD .null) =
    ofOption (result.errorCode.map FailureCode.name)
  errorMessage : (lookup? "errorMessage" members).getD .null = ofOption result.errorMessage
  completedAt : ∃ text clock, lookup? "completedAt" members = some (.string text) ∧
    Time.Stamp.parse text = .ok clock ∧ clock.toUniversal = result.completedAt
  correlationId : (lookup? "correlationId" members).getD .null = ofOption result.correlationId

theorem finish_iff {draft : Draft} {result : JobResult} : draft.finish = .ok result ↔
    draft.jobId = some result.jobId ∧ draft.taskId = some result.taskId ∧
      draft.status = some result.status ∧ draft.transcriptText.join = result.transcriptText ∧
      draft.detectedLanguage.join = result.detectedLanguage ∧
      draft.confidence.join = result.confidence ∧ draft.engine = some result.engine ∧
      draft.modelVersion = some result.modelVersion ∧ draft.errorCode.join = result.errorCode ∧
      draft.errorMessage.join = result.errorMessage ∧
      draft.completedAt = some result.completedAt ∧
      draft.correlationId.join = result.correlationId := by
  constructor
  · intro finished
    obtain ⟨jobId, first, finished⟩ := of_bind_eq_ok finished
    obtain ⟨taskId, second, finished⟩ := of_bind_eq_ok finished
    obtain ⟨status, third, finished⟩ := of_bind_eq_ok finished
    obtain ⟨engine, fourth, finished⟩ := of_bind_eq_ok finished
    obtain ⟨modelVersion, fifth, finished⟩ := of_bind_eq_ok finished
    obtain ⟨completedAt, sixth, finished⟩ := of_bind_eq_ok finished
    cases finished
    exact ⟨requireField_iff.mp first, requireField_iff.mp second, requireField_iff.mp third, rfl,
      rfl, rfl, requireField_iff.mp fourth, requireField_iff.mp fifth, rfl, rfl,
      requireField_iff.mp sixth, rfl⟩
  · rintro ⟨jobId, taskId, status, text, language, confidence, engine, version, code, message,
      completedAt, correlation⟩
    simp [Draft.finish, requireField, jobId, taskId, status, text, language, confidence, engine,
      version, code, message, completedAt, correlation]
    rfl

theorem named_status (name : String) (status : ResultStatus) :
    ResultStatus.ofName? name = some status ↔ status.name = name := by
  constructor
  · intro found
    have same := List.find?_some found
    exact beq_iff_eq.mp same
  · rintro rfl
    cases status <;> rfl

theorem named_code (name : String) (code : FailureCode) :
    FailureCode.ofName? name = some code ↔ code.name = name := by
  constructor
  · intro found
    have same := List.find?_some found
    exact beq_iff_eq.mp same
  · rintro rfl
    exact FailureCode.ofName?_name code

section

variable {members : List (String × Json)} {result : JobResult}

theorem exists_status_iff {status : ResultStatus} :
    (∃ json, lookup? "status" members = some json ∧
        decodeStatus (Document.ofJson json) = .ok status) ↔
      (lookup? "status" members).map plainName = some (.string status.name) := by
  simp [decodeStatus, decodeVariant_iff named_status]

theorem decodeOptionalCode_iff {json : Json} {code : Option FailureCode} :
    (Document.ofJson json).decodeOption decodeCode = .ok code ↔
      plainName json = ofOption (code.map FailureCode.name) :=
  decodeOptionalVariant_iff named_code

/-- A draft that holds what its slots take makes the result that the members tell. -/
theorem finish_iff_told {draft : Draft}
    (taken : ∀ slot ∈ Draft.slots, slot.taken members = .ok (slot.place draft)) :
    draft.finish = .ok result ↔ Told members result := by
  simp only [Draft.slots, List.forall_mem_cons] at taken
  obtain ⟨jobId, taskId, status, text, language, confidence, engine, version, code, message,
    completedAt, correlation, _⟩ := taken
  rw [finish_iff, told_iff, Slot.place_of_iff jobId, Slot.place_of_iff taskId,
    Slot.place_of_iff status, Slot.join_iff text, Slot.join_iff language, Slot.join_iff confidence,
    Slot.place_of_iff engine, Slot.place_of_iff version, Slot.join_iff code, Slot.join_iff message,
    Slot.place_of_iff completedAt, Slot.join_iff correlation]
  simp only [exists_string_iff, exists_status_iff, exists_instant_iff, decodeOptionalText_iff,
    decodeOptionalFloat_iff, decodeOptionalCode_iff]

/-- What members tell is taken by the slots. -/
theorem Told.takes (told : Told members result) :
    ∀ slot ∈ Draft.slots, ∃ value, slot.taken members = .ok value := by
  simp only [Draft.slots, List.forall_mem_cons]
  exact ⟨Slot.exists_taken (exists_string_iff.mpr told.jobId),
    Slot.exists_taken (exists_string_iff.mpr told.taskId),
    Slot.exists_taken (exists_status_iff.mpr told.status),
    Slot.exists_taken_optional (decodeOptionalText_iff.mpr told.transcriptText),
    Slot.exists_taken_optional (decodeOptionalText_iff.mpr told.detectedLanguage),
    Slot.exists_taken_optional (decodeOptionalFloat_iff.mpr told.confidence),
    Slot.exists_taken (exists_string_iff.mpr told.engine),
    Slot.exists_taken (exists_string_iff.mpr told.modelVersion),
    Slot.exists_taken_optional (decodeOptionalCode_iff.mpr told.errorCode),
    Slot.exists_taken_optional (decodeOptionalText_iff.mpr told.errorMessage),
    Slot.exists_taken (exists_instant_iff.mpr told.completedAt),
    Slot.exists_taken_optional (decodeOptionalText_iff.mpr told.correlationId),
    List.forall_mem_nil _⟩

/-- An object whose keys differ is read as a result just if its members are fields and tell it. -/
theorem ofJson_iff_told (nodup : (keys members).Nodup) :
    ofJson (.object members) = .ok result ↔
      (∀ key ∈ keys members, key ∈ fieldNames) ∧ Told members result := by
  rw [ofJson, ofDocument, decodeRecord_object_iff]
  exact Draft.filing.fill_iff nodup Draft.fresh_slots Told.takes fun _ => finish_iff_told

/-! ## What is written for a result -/

theorem keys_members (result : JobResult) : keys result.members = fieldNames := rfl

theorem nodup_of_perm (perm : members.Perm result.members) : (keys members).Nodup := by
  rw [(perm_keys perm).nodup_iff, keys_members]
  decide

/-- A result whose confidence is left out unless it is finite. -/
def measured (result : JobResult) : JobResult :=
  { result with confidence := result.confidence.filter Decimal.isFinite }

theorem measured_eq_self_iff :
    result.measured = result ↔ ∀ value ∈ result.confidence, Decimal.isFinite value = true := by
  obtain ⟨_, _, _, _, _, confidence, _, _, _, _, _, _⟩ := result
  cases confidence <;> simp [measured, Option.filter]

/-- What is written for a result, in whatever order, tells it but for a confidence that is not
finite. -/
theorem told_members (universal : result.completedAt.Universal)
    (perm : members.Perm result.members) : Told members result.measured := by
  have found (name : String) : lookup? name members = lookup? name result.members :=
    lookup?_perm (nodup_of_perm perm) perm name
  have respelled : ∃ text clock, lookup? "completedAt" result.members = some (.string text) ∧
      Time.Stamp.parse text = .ok clock ∧ clock.toUniversal = result.completedAt :=
    ⟨_, _, rfl, Time.Stamp.parse_render universal.fits, universal.toUniversal_eq⟩
  refine (told_iff _ _).mpr ?_
  simp only [found]
  refine ⟨rfl, rfl, rfl, rfl, rfl, ?_, rfl, rfl, ?_, rfl, respelled, rfl⟩
  · show inDouble ((result.confidence.map ofFloat).getD .null) =
      ((result.confidence.filter Decimal.isFinite).map fun value =>
        .number (.real value)).getD .null
    cases result.confidence with
    | none => rfl
    | some value =>
        by_cases finite : Decimal.isFinite value = true <;>
          simp [ofFloat, Option.filter, finite, inDouble, Number.double]
  · exact plainName_ofOption _

theorem ofJson_of_perm (universal : result.completedAt.Universal)
    (perm : members.Perm result.members) : ofJson (.object members) = .ok result.measured := by
  refine (ofJson_iff_told (nodup_of_perm perm)).mpr
    ⟨fun key listed => ?_, told_members universal perm⟩
  exact (perm_keys perm).subset listed

/-! ## What is written for a result that was read -/

/-- The usual spelling of what stands in a field. -/
def restated (name : String) (value : Option Json) : Json :=
  if name = "completedAt" then inUniversal (value.getD .null)
  else if name = "confidence" then inDouble (value.getD .null)
  else if name = "status" ∨ name = "errorCode" then plainName (value.getD .null)
  else value.getD .null

theorem Told.confidence_eq (told : Told members result) (nodup : (keys members).Nodup)
    (proper : ProperMembers members) :
    (result.confidence.map ofFloat).getD .null =
      inDouble ((lookup? "confidence" members).getD .null) := by
  have confidence := told.confidence
  cases measured : result.confidence with
  | none =>
      rw [measured] at confidence
      exact confidence.symm
  | some value =>
      rw [measured] at confidence
      have finite : Decimal.isFinite value = true := by
        cases found : lookup? "confidence" members with
        | none =>
            rw [found] at confidence
            cases confidence
        | some json =>
            have sound : json.Proper :=
              properMembers_iff.mp proper _ ((lookup?_eq_some_iff nodup).mp found)
            rw [found, Option.getD_some] at confidence
            cases json with
            | number held =>
                cases confidence
                exact isFinite_double sound
            | _ => cases confidence
      rw [confidence]
      simp [ofFloat, finite]

/-- What is written for a result that was read is what it was read from, in the usual spelling. -/
theorem Told.restates (told : Told members result) (nodup : (keys members).Nodup)
    (proper : ProperMembers members) :
    result.members = fieldNames.map fun name => (name, restated name (lookup? name members)) := by
  obtain ⟨text, clock, stamped, parsed, same⟩ := told.completedAt
  obtain ⟨_, found, plain⟩ := Option.map_eq_some_iff.mp told.status
  have instant : inUniversal (.string text) = .string result.completedAt.render := by
    simp [inUniversal, parsed, same]
  simp [JobResult.members, fieldNames, restated, told.jobId, told.taskId, found, plain,
    told.transcriptText, told.detectedLanguage, told.confidence_eq nodup proper, told.engine,
    told.modelVersion, told.errorCode, told.errorMessage, stamped, instant, told.correlationId]

/-! ## Reading and writing -/

/-- From what is written for a result, in whatever order, the result is read but for a confidence
that is not finite. -/
structure ReadsBack (result : JobResult) : Prop where
  read : ∀ members : List (String × Json), members.Perm result.members →
    ofJson (.object members) = .ok { result with
      confidence := result.confidence.filter Decimal.isFinite }
  same_iff : ∀ members : List (String × Json), members.Perm result.members →
    (ofJson (.object members) = .ok result ↔
      ∀ value ∈ result.confidence, Decimal.isFinite value = true)

theorem readsBack (universal : result.completedAt.Universal) : result.ReadsBack := by
  refine ⟨fun members perm => ofJson_of_perm universal perm, fun members perm => ?_⟩
  rw [ofJson_of_perm universal perm, Except.ok.injEq, measured_eq_self_iff]

/-- Members that a result was read from are fields, and written again they stand in their usual
spelling, with the time stamp of the same instant. -/
structure WrittenBack (members : List (String × Json)) (result : JobResult) : Prop where
  known : ∀ key ∈ keys members, key ∈ fieldNames
  restated : result.members = fieldNames.map fun name =>
    (name, restated name (lookup? name members))
  instant : ∃ text clock, lookup? "completedAt" members = some (.string text) ∧
    Time.Stamp.parse text = .ok clock ∧ clock.sameInstant result.completedAt = true ∧
    Time.Stamp.parse result.completedAt.render = .ok result.completedAt

theorem writtenBack (proper : (Json.object members).Proper)
    (read : ofJson (.object members) = .ok result) : WrittenBack members result := by
  obtain ⟨ascending, values⟩ := proper
  obtain ⟨known, told⟩ := (ofJson_iff_told ascending.nodup).mp read
  obtain ⟨text, clock, stamped, parsed, same⟩ := told.completedAt
  refine ⟨known, told.restates ascending.nodup values, text, clock, stamped, parsed, ?_, ?_⟩
  · rw [← same]
    exact clock.sameInstant_toUniversal
  · rw [← same]
    exact Time.Stamp.parse_render (Time.Stamp.fits_toUniversal (Time.Stamp.fits_of_parse parsed))

end

end Scribe.JobResult
