import Scribe.Proofs.Broker.Headers
import Scribe.Proofs.Schema.Result
import Scribe.Retry.DeadLetter

/-!
# Dead letters read back

A dead letter is read from an object just if all members are fields and tell what they should.
What is written for a dead letter tells it, but for a payload that is null.  Results and dead
letters are both read without loss where nothing but these two can be lost, and what is written
for one that was read is what it was read from, each field in its usual spelling.
-/

namespace Scribe.DeadLetter

open Scribe.Json

/-! ## Slots of a draft -/

namespace Draft

/-- The slots of the fields. -/
def slots : List (Slot Draft DecodeError) :=
  [.decoded "originalTopic" Document.decodeString Draft.topic fun draft value =>
      { draft with topic := value },
    .decoded "originalPartition"
      (fun document => document.decodeInt "i32" (-0x80000000) 0x7fffffff) Draft.partition
      fun draft value => { draft with partition := value },
    .decoded "originalOffset"
      (fun document => document.decodeInt "i64" (-0x8000000000000000) 0x7fffffffffffffff)
      Draft.offset fun draft value => { draft with offset := value },
    .decoded "failedAt" JobResult.decodeInstant Draft.failedAt fun draft value =>
      { draft with failedAt := value },
    .decoded "failureStage" Document.decodeString Draft.failureStage fun draft value =>
      { draft with failureStage := value },
    .decoded "job" (Document.decodeOption Document.decodeJson) Draft.job fun draft value =>
      { draft with job := value },
    .decoded "errorCode" Document.decodeString Draft.errorCode fun draft value =>
      { draft with errorCode := value },
    .decoded "errorMessage" Document.decodeString Draft.errorMessage fun draft value =>
      { draft with errorMessage := value },
    .decoded "attempt" (fun document => document.decodeInt "u32" 0 0xffffffff) Draft.attempt
      fun draft value => { draft with attempt := value }]

theorem filing : Filing (unlocated Draft.put) (refuse fieldNames) slots where
  fills := by
    simp only [slots, List.forall_mem_cons]
    refine ⟨?_, ?_, ?_, ?_, ?_, ?_, ?_, ?_, ?_, List.forall_mem_nil _⟩ <;>
      exact fun draft json empty => Slot.fills_decoded empty rfl
  passes := by
    intro draft name json unknown
    simp [slots, Slot.decoded, Slot.of] at unknown
    simp [unlocated, Draft.put, refuse, unknown]
  keeps := by
    simp [slots, Slot.decoded, Slot.of]
  apart := by
    simp [slots, Slot.decoded, Slot.of, Slot.apart_iff]
  spares := by
    intro draft name json next refused
    cases refused

theorem fresh_slots : ∀ slot ∈ slots, slot.place {} = slot.empty := by
  simp [slots, Slot.decoded, Slot.of]

end Draft

/-! ## What an object tells -/

/-- Members tell a dead letter, where null stands for a missing payload and zero for a missing
attempt count. -/
@[mk_iff]
structure Told (members : List (String × Json)) (letter : DeadLetter) : Prop where
  topic : lookup? "originalTopic" members = some (.string letter.topic)
  partition : lookup? "originalPartition" members = some (ofInt letter.partition) ∧
    -0x80000000 ≤ letter.partition ∧ letter.partition ≤ 0x7fffffff
  offset : lookup? "originalOffset" members = some (ofInt letter.offset) ∧
    -0x8000000000000000 ≤ letter.offset ∧ letter.offset ≤ 0x7fffffffffffffff
  failedAt : ∃ text clock, lookup? "failedAt" members = some (.string text) ∧
    Time.Stamp.parse text = .ok clock ∧ clock.toUniversal = letter.failedAt
  failureStage : lookup? "failureStage" members = some (.string letter.failureStage)
  job : (lookup? "job" members).getD .null = letter.job.getD .null ∧ letter.job ≠ some .null
  errorCode : lookup? "errorCode" members = some (.string letter.errorCode)
  errorMessage : lookup? "errorMessage" members = some (.string letter.errorMessage)
  attempt : (lookup? "attempt" members).getD (ofInt 0) = ofInt letter.attempt ∧
    letter.attempt ≤ Text.max32

theorem finish_iff {draft : Draft} {letter : DeadLetter} : draft.finish = .ok letter ↔
    draft.topic = some letter.topic ∧ draft.partition = some letter.partition ∧
      draft.offset = some letter.offset ∧ draft.failedAt = some letter.failedAt ∧
      draft.failureStage = some letter.failureStage ∧ draft.job.join = letter.job ∧
      draft.errorCode = some letter.errorCode ∧ draft.errorMessage = some letter.errorMessage ∧
      (draft.attempt.getD 0).toNat = letter.attempt := by
  constructor
  · intro finished
    obtain ⟨topic, first, finished⟩ := of_bind_eq_ok finished
    obtain ⟨partition, second, finished⟩ := of_bind_eq_ok finished
    obtain ⟨offset, third, finished⟩ := of_bind_eq_ok finished
    obtain ⟨failedAt, fourth, finished⟩ := of_bind_eq_ok finished
    obtain ⟨stage, fifth, finished⟩ := of_bind_eq_ok finished
    obtain ⟨code, sixth, finished⟩ := of_bind_eq_ok finished
    obtain ⟨message, seventh, finished⟩ := of_bind_eq_ok finished
    cases finished
    exact ⟨requireField_iff.mp first, requireField_iff.mp second, requireField_iff.mp third,
      requireField_iff.mp fourth, requireField_iff.mp fifth, rfl, requireField_iff.mp sixth,
      requireField_iff.mp seventh, rfl⟩
  · rintro ⟨topic, partition, offset, failedAt, stage, job, code, message, attempt⟩
    simp [Draft.finish, requireField, topic, partition, offset, failedAt, stage, job, code,
      message, attempt]
    rfl

section

variable {members : List (String × Json)} {letter : DeadLetter}

/-- An attempt count is zero where none is told. -/
theorem attempt_iff {draft : Draft} {store : Draft → Option Int → Draft}
    (taken : (Slot.decoded "attempt" (fun document => document.decodeInt "u32" 0 0xffffffff)
      Draft.attempt store).taken members = .ok draft.attempt) {attempt : Nat} :
    (draft.attempt.getD 0).toNat = attempt ↔
      (lookup? "attempt" members).getD (ofInt 0) = ofInt attempt ∧ attempt ≤ Text.max32 := by
  have largest : Text.max32 = 4294967295 := rfl
  cases found : lookup? "attempt" members with
  | none =>
      have empty : draft.attempt = none := by
        simpa [Slot.taken, Slot.decoded, Slot.of, found, eq_comm] using taken
      rw [empty, Option.getD_none, Option.getD_none, ofInt, ofInt, number.injEq,
        Number.integer.injEq]
      omega
  | some json =>
      have read : ((Document.ofJson json).decodeInt "u32" 0 0xffffffff).map some =
          .ok draft.attempt := by
        simpa [Slot.taken, Slot.decoded, Slot.of, found] using taken
      obtain ⟨count, decoded, same⟩ := of_map_eq_ok read
      obtain ⟨rfl, least, most⟩ := decodeInt_iff.mp decoded
      rw [← same, Option.getD_some, Option.getD_some, ofInt, ofInt, number.injEq,
        Number.integer.injEq]
      omega

theorem Told.attempt_taken (told : Told members letter) {store : Draft → Option Int → Draft} :
    ∃ value, (Slot.decoded "attempt" (fun document => document.decodeInt "u32" 0 0xffffffff)
      Draft.attempt store).taken members = .ok value := by
  have largest : Text.max32 = 4294967295 := rfl
  obtain ⟨same, few⟩ := told.attempt
  cases found : lookup? "attempt" members with
  | none => exact ⟨none, by simp [Slot.taken, Slot.decoded, Slot.of, found]⟩
  | some json =>
      rw [found, Option.getD_some] at same
      refine ⟨_, Slot.taken_of_iff.mpr ⟨json, found, decodeInt_iff.mpr ⟨same, ?_, ?_⟩⟩⟩ <;> omega

/-- A draft that holds what its slots take makes the dead letter that the members tell. -/
theorem finish_iff_told {draft : Draft} (proper : ((lookup? "job" members).getD .null).Proper)
    (taken : ∀ slot ∈ Draft.slots, slot.taken members = .ok (slot.place draft)) :
    draft.finish = .ok letter ↔ Told members letter := by
  simp only [Draft.slots, List.forall_mem_cons] at taken
  obtain ⟨topic, partition, offset, failedAt, stage, job, code, message, attempt, _⟩ := taken
  rw [finish_iff, told_iff, Slot.place_of_iff topic, Slot.place_of_iff partition,
    Slot.place_of_iff offset, Slot.place_of_iff failedAt, Slot.place_of_iff stage,
    Slot.join_iff job, Slot.place_of_iff code, Slot.place_of_iff message, attempt_iff attempt]
  simp only [exists_string_iff, exists_instant_iff, exists_int_iff, decodeOptionalJson_iff proper]

/-- What members tell is taken by the slots. -/
theorem Told.takes (told : Told members letter)
    (proper : ((lookup? "job" members).getD .null).Proper) :
    ∀ slot ∈ Draft.slots, ∃ value, slot.taken members = .ok value := by
  simp only [Draft.slots, List.forall_mem_cons]
  exact ⟨Slot.exists_taken (exists_string_iff.mpr told.topic),
    Slot.exists_taken (exists_int_iff.mpr told.partition),
    Slot.exists_taken (exists_int_iff.mpr told.offset),
    Slot.exists_taken (exists_instant_iff.mpr told.failedAt),
    Slot.exists_taken (exists_string_iff.mpr told.failureStage),
    Slot.exists_taken_optional ((decodeOptionalJson_iff proper).mpr told.job),
    Slot.exists_taken (exists_string_iff.mpr told.errorCode),
    Slot.exists_taken (exists_string_iff.mpr told.errorMessage), told.attempt_taken,
    List.forall_mem_nil _⟩

/-- An object whose keys differ is read as a dead letter just if its members are fields and tell
it. -/
theorem ofJson_iff_told (nodup : (keys members).Nodup) (proper : ProperMembers members) :
    ofJson (.object members) = .ok letter ↔
      (∀ key ∈ keys members, key ∈ fieldNames) ∧ Told members letter := by
  have sound : ((lookup? "job" members).getD .null).Proper := by
    cases found : lookup? "job" members with
    | none => trivial
    | some json => exact properMembers_iff.mp proper _ ((lookup?_eq_some_iff nodup).mp found)
  rw [ofJson, ofDocument, decodeRecord_object_iff]
  exact Draft.filing.fill_iff nodup Draft.fresh_slots (fun told => told.takes sound)
    fun _ => finish_iff_told sound

/-! ## What is written for a dead letter -/

theorem keys_members (letter : DeadLetter) : keys letter.members = fieldNames := rfl

theorem nodup_of_perm (perm : members.Perm letter.members) : (keys members).Nodup := by
  rw [(perm_keys perm).nodup_iff, keys_members]
  decide

/-- A dead letter that a message can come to: its numbers have 32 and 64 bits, it was written on
a clock in universal time, and its payload is a proper value. -/
structure Sound (letter : DeadLetter) : Prop where
  partition : -0x80000000 ≤ letter.partition ∧ letter.partition ≤ 0x7fffffff
  offset : -0x8000000000000000 ≤ letter.offset ∧ letter.offset ≤ 0x7fffffffffffffff
  attempt : letter.attempt ≤ Text.max32
  failedAt : letter.failedAt.Universal
  job : ∀ value ∈ letter.job, value.Proper

/-- A dead letter whose payload is left out if it is null. -/
def carried (letter : DeadLetter) : DeadLetter :=
  { letter with
    job :=
      match letter.job with
      | some .null => none
      | job => job }

theorem carried_eq_self_iff : letter.carried = letter ↔ letter.job ≠ some .null := by
  obtain ⟨_, _, _, _, _, job, _, _, _⟩ := letter
  rw [carried]
  split
  next null => simp [show job = some .null from null]
  next differs => simpa using differs

theorem job_carried : letter.job.getD .null = letter.carried.job.getD .null ∧
    letter.carried.job ≠ some .null := by
  simp only [carried]
  split
  next null => simp [null]
  next differs => exact ⟨rfl, differs⟩

/-- What is written for a dead letter, in whatever order, tells it but for a payload that is
null. -/
theorem told_members (sound : letter.Sound) (perm : members.Perm letter.members) :
    Told members letter.carried := by
  have found (name : String) : lookup? name members = lookup? name letter.members :=
    lookup?_perm (nodup_of_perm perm) perm name
  have respelled : ∃ text clock, lookup? "failedAt" letter.members = some (.string text) ∧
      Time.Stamp.parse text = .ok clock ∧ clock.toUniversal = letter.failedAt :=
    ⟨_, _, rfl, Time.Stamp.parse_render sound.failedAt.fits, sound.failedAt.toUniversal_eq⟩
  refine (told_iff _ _).mpr ?_
  simp only [found]
  exact ⟨rfl, ⟨rfl, sound.partition⟩, ⟨rfl, sound.offset⟩, respelled, rfl, job_carried, rfl, rfl,
    rfl, sound.attempt⟩

theorem properMembers_members (sound : letter.Sound) : ProperMembers letter.members := by
  have job : (letter.job.getD .null).Proper := by
    cases held : letter.job with
    | none => trivial
    | some value => exact sound.job value held
  exact ⟨trivial, trivial, trivial, trivial, trivial, job, trivial, trivial, trivial, trivial⟩

theorem ofJson_of_perm (sound : letter.Sound) (perm : members.Perm letter.members) :
    ofJson (.object members) = .ok letter.carried := by
  have proper : ProperMembers members := properMembers_iff.mpr fun member listed =>
    properMembers_iff.mp (properMembers_members sound) member (perm.subset listed)
  refine (ofJson_iff_told (nodup_of_perm perm) proper).mpr
    ⟨fun key listed => ?_, told_members sound perm⟩
  exact (perm_keys perm).subset listed

/-! ## What is written for a dead letter that was read -/

/-- The usual spelling of what stands in a field. -/
def restated (name : String) (value : Option Json) : Json :=
  if name = "failedAt" then inUniversal (value.getD .null)
  else if name = "attempt" then value.getD (ofInt 0)
  else value.getD .null

/-- What is written for a dead letter that was read is what it was read from, in the usual
spelling. -/
theorem Told.restates (told : Told members letter) :
    letter.members = fieldNames.map fun name => (name, restated name (lookup? name members)) := by
  obtain ⟨text, clock, stamped, parsed, same⟩ := told.failedAt
  have instant : inUniversal (.string text) = .string letter.failedAt.render := by
    simp [inUniversal, parsed, same]
  simp [DeadLetter.members, fieldNames, restated, told.topic, told.partition.1, told.offset.1,
    stamped, instant, told.failureStage, told.job.1, told.errorCode, told.errorMessage,
    told.attempt.1]

/-! ## Reading and writing -/

/-- From what is written for a dead letter, in whatever order, the dead letter is read but for a
payload that is null. -/
structure ReadsBack (letter : DeadLetter) : Prop where
  read : ∀ members : List (String × Json), members.Perm letter.members →
    ofJson (.object members) = .ok letter.carried
  same_iff : ∀ members : List (String × Json), members.Perm letter.members →
    (ofJson (.object members) = .ok letter ↔ letter.job ≠ some .null)

theorem readsBack (sound : letter.Sound) : letter.ReadsBack := by
  refine ⟨fun members perm => ofJson_of_perm sound perm, fun members perm => ?_⟩
  rw [ofJson_of_perm sound perm, Except.ok.injEq, carried_eq_self_iff]

/-- Members that a dead letter was read from are fields, and written again they stand in their
usual spelling, with the time stamp of the same instant. -/
structure WrittenBack (members : List (String × Json)) (letter : DeadLetter) : Prop where
  known : ∀ key ∈ keys members, key ∈ fieldNames
  restated : letter.members = fieldNames.map fun name =>
    (name, restated name (lookup? name members))
  instant : ∃ text clock, lookup? "failedAt" members = some (.string text) ∧
    Time.Stamp.parse text = .ok clock ∧ clock.sameInstant letter.failedAt = true ∧
    Time.Stamp.parse letter.failedAt.render = .ok letter.failedAt

theorem writtenBack (proper : (Json.object members).Proper)
    (read : ofJson (.object members) = .ok letter) : WrittenBack members letter := by
  obtain ⟨ascending, values⟩ := proper
  obtain ⟨known, told⟩ := (ofJson_iff_told ascending.nodup values).mp read
  obtain ⟨text, clock, stamped, parsed, same⟩ := told.failedAt
  refine ⟨known, told.restates, text, clock, stamped, parsed, ?_, ?_⟩
  · rw [← same]
    exact clock.sameInstant_toUniversal
  · rw [← same]
    exact Time.Stamp.parse_render (Time.Stamp.fits_toUniversal (Time.Stamp.fits_of_parse parsed))

/-- The dead letter of a message is sound if the message is. -/
theorem sound_of {message : Broker.Message} {now : Time.Stamp} {job : Option Json}
    (partition : -0x80000000 ≤ message.partition ∧ message.partition ≤ 0x7fffffff)
    (offset : -0x8000000000000000 ≤ message.offset ∧ message.offset ≤ 0x7fffffffffffffff)
    (universal : now.Universal) (proper : ∀ value ∈ job, value.Proper) (stage : String)
    (failure : Failure) : (DeadLetter.of message stage failure job now).Sound :=
  ⟨partition, offset, message.attempt_le, universal, proper⟩

end

end Scribe.DeadLetter

namespace Scribe

open Scribe.Json

/-- What is written for the results of jobs and for the dead letters of messages is read back,
but for a confidence that is not finite and a payload that is null.  Whatever is read as one of
them has no other fields, and is written back as it was in the usual spelling. -/
theorem strict_schemas_read_back :
    (∀ job transcript engine modelVersion now, Time.Stamp.Universal now →
      (JobResult.completed job transcript engine modelVersion now).ReadsBack) ∧
    (∀ job failure engine modelVersion now, Time.Stamp.Universal now →
      (JobResult.failed job failure engine modelVersion now).ReadsBack) ∧
    (∀ message stage failure job now,
      (-0x80000000 ≤ message.partition ∧ message.partition ≤ 0x7fffffff) →
      (-0x8000000000000000 ≤ message.offset ∧ message.offset ≤ 0x7fffffffffffffff) →
      Time.Stamp.Universal now → (∀ value ∈ job, Json.Proper value) →
      (DeadLetter.of message stage failure job now).ReadsBack) ∧
    (∀ members result, (Json.object members).Proper →
      JobResult.ofJson (.object members) = .ok result → result.WrittenBack members) ∧
    ∀ members letter, (Json.object members).Proper →
      DeadLetter.ofJson (.object members) = .ok letter → letter.WrittenBack members :=
  ⟨fun _ _ _ _ _ universal => JobResult.readsBack universal,
    fun _ _ _ _ _ universal => JobResult.readsBack universal,
    fun _ stage failure _ _ partition offset universal proper =>
      DeadLetter.readsBack (DeadLetter.sound_of partition offset universal proper stage failure),
    fun _ _ proper read => JobResult.writtenBack proper read,
    fun _ _ proper read => DeadLetter.writtenBack proper read⟩

/-- A leap second in universal time. -/
def leapSecond : Time.Stamp :=
  ⟨⟨2016, 12, 31⟩, 23, 59, 59, 1250000000, 0⟩

/-- A job to report on. -/
def reported : Job :=
  ⟨"one", "two", "https://media.example/a.wav", none, leapSecond, some "three", []⟩

/-- A result whose confidence is infinite. -/
def overconfident : JobResult :=
  .completed reported ⟨some "words", none, some (Float.ofBits 0x7ff0000000000000)⟩ "e" "m"
    leapSecond

/-- The dead letter of a payload that is null, in the last partition. -/
def hollow : DeadLetter :=
  .of ⟨"jobs", 0x7fffffff, 0x7fffffffffffffff, none, ByteArray.empty, [], "id"⟩ "decode"
    (.of .invalidPayload "no job") (some .null) leapSecond

/-- A result in another spelling: the status is a key, the confidence an integer, the time that
of another clock, and what is null is missing. -/
def loose : List (String × Json) :=
  [("completedAt", .string "2017-01-01 01:59:60.25+02:00"), ("confidence", .number (.integer 1)),
    ("engine", .string "e"), ("jobId", .string "one"), ("modelVersion", .string "m"),
    ("status", .object [("COMPLETED", .null)]), ("taskId", .string "two")]

/-- A dead letter without a payload and without an attempt count. -/
def terse : List (String × Json) :=
  [("errorCode", .string "c"), ("errorMessage", .string "m"),
    ("failedAt", .string "2017-01-01 01:59:60.25+02:00"), ("failureStage", .string "decode"),
    ("originalOffset", .number (.integer (-1))), ("originalPartition", .number (.integer 0)),
    ("originalTopic", .string "jobs")]

theorem strict_schemas_read_back_lossy :
    leapSecond.Universal ∧
      JobResult.ofJson overconfident.toJson = .ok { overconfident with confidence := none } ∧
      (JobResult.failed reported (.of .audioTooLong "long") "e" "m" leapSecond).ReadsBack ∧
      DeadLetter.ofJson hollow.toJson = .ok { hollow with job := none } ∧
      (Json.object loose).Proper ∧
      (∃ result, JobResult.ofJson (.object loose) = .ok result ∧ result.WrittenBack loose) ∧
      (Json.object terse).Proper ∧
      ∃ letter, DeadLetter.ofJson (.object terse) = .ok letter ∧ letter.WrittenBack terse := by
  have universal : leapSecond.Universal :=
    ⟨⟨by decide, by decide, by decide, by decide, by decide, fun _ => rfl, by decide, by decide,
      by decide, by decide⟩, rfl⟩
  have infinite : (some (Float.ofBits 0x7ff0000000000000)).filter Decimal.isFinite = none := by
    decide
  obtain ⟨completed, failed, dead, written, rewritten⟩ := strict_schemas_read_back
  have unmeasured : JobResult.ofJson overconfident.toJson = .ok { overconfident with
      confidence := (some (Float.ofBits 0x7ff0000000000000)).filter Decimal.isFinite } :=
    (completed _ _ _ _ _ universal).read _ (List.Perm.refl _)
  have carried : DeadLetter.ofJson hollow.toJson = .ok hollow.carried :=
    (dead _ _ _ _ _ (by decide) (by decide) universal fun _ null => by cases null; trivial).read _
      (List.Perm.refl _)
  have ascending : Ascending loose := by
    unfold Ascending
    decide
  have proper : (Json.object loose).Proper :=
    ⟨ascending, trivial, trivial, trivial, trivial, trivial,
      ⟨List.pairwise_singleton _ _, trivial, trivial⟩, trivial, trivial⟩
  have parsed : Time.Stamp.parse "2017-01-01 01:59:60.25+02:00" =
    .ok ⟨⟨2017, 1, 1⟩, 1, 59, 59, 1250000000, 7200⟩ := by decide
  have read : JobResult.ofJson (.object loose) = .ok
      { jobId := "one"
        taskId := "two"
        status := .completed
        transcriptText := none
        detectedLanguage := none
        confidence := some (Document.floatOfInt 1)
        engine := "e"
        modelVersion := "m"
        errorCode := none
        errorMessage := none
        completedAt := Time.Stamp.toUniversal ⟨⟨2017, 1, 1⟩, 1, 59, 59, 1250000000, 7200⟩
        correlationId := none } :=
    (JobResult.ofJson_iff_told ascending.nodup).mpr ⟨by decide,
      ⟨rfl, rfl, rfl, rfl, rfl, rfl, rfl, rfl, rfl, rfl, ⟨_, _, rfl, parsed, rfl⟩, rfl⟩⟩
  have ascends : Ascending terse := by
    unfold Ascending
    decide
  have sound : (Json.object terse).Proper :=
    ⟨ascends, trivial, trivial, trivial, trivial, trivial, trivial, trivial, trivial⟩
  have reread : DeadLetter.ofJson (.object terse) = .ok
      { topic := "jobs"
        partition := 0
        offset := -1
        failedAt := Time.Stamp.toUniversal ⟨⟨2017, 1, 1⟩, 1, 59, 59, 1250000000, 7200⟩
        failureStage := "decode"
        job := none
        errorCode := "c"
        errorMessage := "m"
        attempt := 0 } :=
    (DeadLetter.ofJson_iff_told ascends.nodup sound.2).mpr ⟨by decide,
      ⟨rfl, ⟨rfl, by decide⟩, ⟨rfl, by decide⟩, ⟨_, _, rfl, parsed, rfl⟩, rfl,
        ⟨rfl, fun null => by cases null⟩, rfl, rfl, ⟨rfl, by decide⟩⟩⟩
  rw [infinite] at unmeasured
  exact ⟨universal, unmeasured, failed _ _ _ _ _ universal, carried, proper,
    ⟨_, read, written _ _ proper read⟩, sound, _, reread, rewritten _ _ sound reread⟩

end Scribe
