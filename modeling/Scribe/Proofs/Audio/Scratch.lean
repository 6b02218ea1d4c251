import Scribe.Proofs.Files
import Scribe.Proofs.Text.Numeral
import Scribe.Proofs.Work.Disk
import Scribe.Proofs.Work.Records

/-!
# Scratch files stay in their directory

The id of a job comes from outside, and what stands in it ends up in the names of files that are
removed later.  Of whatever characters an id consists, the names made of it are short and plain:
they name children of the scratch directory, and nothing but these two children is removed when
the job is done.
-/

namespace Scribe.Audio

open Scribe.Text

/-! ## Stems -/

/-- A letter or a digit of ASCII, a hyphen or an underscore. -/
def IsPlain (c : Char) : Prop :=
  ('A' ≤ c ∧ c ≤ 'Z') ∨ ('a' ≤ c ∧ c ≤ 'z') ∨ ('0' ≤ c ∧ c ≤ '9') ∨ c = '-' ∨ c = '_'

instance (c : Char) : Decidable (IsPlain c) :=
  inferInstanceAs (Decidable (('A' ≤ c ∧ c ≤ 'Z') ∨ ('a' ≤ c ∧ c ≤ 'z') ∨ ('0' ≤ c ∧ c ≤ '9') ∨
    c = '-' ∨ c = '_'))

theorem isPlain_of_all {text : List Char} (all : text.all (fun c => decide (IsPlain c)) = true) :
    ∀ c ∈ text, IsPlain c :=
  fun c member => of_decide_eq_true (List.all_eq_true.mp all c member)

theorem isPlain_of_isSafe {c : Char} (safe : isSafe c = true) : IsPlain c := by
  simp only [isSafe, Bool.or_eq_true, beq_iff_eq] at safe
  rcases safe with (alphanumeric | hyphen) | underscore
  · rcases (Bool.or_eq_true _ _).mp alphanumeric with letter | digit
    · rcases (Bool.or_eq_true _ _).mp letter with upper | lower
      · exact Or.inl (of_decide_eq_true upper)
      · obtain ⟨low, high⟩ := (Bool.and_eq_true _ _).mp lower
        exact Or.inr (Or.inl ⟨of_decide_eq_true low, of_decide_eq_true high⟩)
    · obtain ⟨low, high⟩ := (Bool.and_eq_true _ _).mp digit
      exact Or.inr (Or.inr (Or.inl ⟨of_decide_eq_true low, of_decide_eq_true high⟩))
  · exact Or.inr (Or.inr (Or.inr (Or.inl hyphen)))
  · exact Or.inr (Or.inr (Or.inr (Or.inr underscore)))

theorem IsPlain.ascii {c : Char} (plain : IsPlain c) : c.utf8Size = 1 := by
  rw [Char.utf8Size_eq_one_iff]
  rcases plain with ⟨_, high⟩ | ⟨_, high⟩ | ⟨_, high⟩ | rfl | rfl
  · exact Nat.le_trans high (by decide)
  · exact Nat.le_trans high (by decide)
  · exact Nat.le_trans high (by decide)
  · decide
  · decide

theorem IsPlain.ne_of_not {c other : Char} (plain : IsPlain c) (odd : ¬ IsPlain other) :
    c ≠ other :=
  fun same => odd (same ▸ plain)

/-- What a job id leaves of itself in the names of files. -/
theorem stem_spec (jobId : String) :
    1 ≤ (stem jobId).length ∧ (stem jobId).length ≤ 64 ∧ ∀ c ∈ stem jobId, IsPlain c := by
  unfold stem
  dsimp only
  split
  · exact ⟨by decide, by decide, isPlain_of_all (by decide)⟩
  next kept =>
    rw [List.isEmpty_iff, ← List.length_eq_zero_iff] at kept
    refine ⟨Nat.pos_of_ne_zero kept, ?_, fun c member => ?_⟩
    · rw [List.length_map, List.length_take]
      exact Nat.min_le_left _ _
    · obtain ⟨from_, _, rfl⟩ := List.mem_map.mp member
      split
      next safe => exact isPlain_of_isSafe safe
      next => decide

/-! ## Names -/

/-- A stem for the names of files: up to 64 plain characters, a hyphen, and the digits of a
number of 128 bits. -/
def IsStem (drawn : Nat) (stem : List Char) : Prop :=
  ∃ front digits : List Char, stem = front ++ '-' :: digits ∧
    (1 ≤ front.length ∧ front.length ≤ 64 ∧ ∀ c ∈ front, IsPlain c) ∧
    digits.length = 32 ∧ (∀ c ∈ digits, c ∈ "0123456789abcdef".toList) ∧
    hexValue digits = drawn % 2 ^ 128

theorem isStem_sharedName (jobId : String) (drawn : Nat) :
    IsStem drawn (Scratch.sharedName jobId drawn).toList := by
  have each : ∀ digit < 16, hexChar digit ∈ "0123456789abcdef".toList := by decide
  refine ⟨stem jobId, hexChars 32 drawn, ?_, stem_spec jobId, length_hexChars 32 drawn, ?_, ?_⟩
  · rw [Scratch.sharedName, String.toList_ofList]
  · intro c member
    obtain ⟨digit, small, rfl⟩ := hexChar_of_mem_hexChars member
    exact each digit small
  · rw [hexValue_hexChars, show (16 : Nat) ^ 32 = 2 ^ 128 by decide]

theorem IsStem.plain {drawn : Nat} {stem : List Char} (isStem : IsStem drawn stem) :
    ∀ c ∈ stem, IsPlain c := by
  obtain ⟨front, digits, rfl, ⟨_, _, plain⟩, _, hex, _⟩ := isStem
  have each : ∀ c ∈ "0123456789abcdef".toList, IsPlain c := isPlain_of_all (by decide)
  intro c member
  rcases List.mem_append.mp member with before | behind
  · exact plain c before
  · rcases List.mem_cons.mp behind with rfl | digit
    · decide
    · exact each c (hex c digit)

theorem IsStem.length {drawn : Nat} {stem : List Char} (isStem : IsStem drawn stem) :
    34 ≤ stem.length ∧ stem.length ≤ 97 := by
  obtain ⟨front, digits, rfl, ⟨low, high, _⟩, count, _, _⟩ := isStem
  rw [List.length_append, List.length_cons, count]
  omega

/-- A text of plain characters has as many bytes as characters. -/
theorem utf8ByteSize_of_plain {text : List Char} (plain : ∀ c ∈ text, IsPlain c) :
    (String.ofList text).utf8ByteSize = text.length := by
  induction text with
  | nil => rfl
  | cons c rest ih =>
      obtain ⟨first, others⟩ := List.forall_mem_cons.mp plain
      rw [← List.singleton_append, String.ofList_append, ← String.singleton_eq_ofList,
        String.utf8ByteSize_append, String.utf8ByteSize_singleton, first.ascii, ih others,
        List.length_append, List.length_singleton]

/-- The name of a scratch file: a stem, and an ending that begins with the only dot. -/
structure IsName (stem : List Char) (ending name : String) : Prop where
  text : name.toList = stem ++ ending.toList
  stemless : '.' ∉ stem
  slashless : '/' ∉ name.toList
  short : name.utf8ByteSize ≤ 103

theorem isName_of_stem {drawn : Nat} {stem : List Char} {ending name : String}
    (isStem : IsStem drawn stem) (ends : ending = ".input" ∨ ending = ".wav")
    (text : name.toList = stem ++ ending.toList) : IsName stem ending name where
  text := text
  stemless dot := (isStem.plain '.' dot).ne_of_not (by decide) rfl
  slashless := by
    rw [text, List.mem_append, not_or]
    refine ⟨fun slash => (isStem.plain '/' slash).ne_of_not (by decide) rfl, ?_⟩
    rcases ends with rfl | rfl <;> decide
  short := by
    have whole : name = String.ofList stem ++ ending := by
      rw [← String.toList_inj, String.toList_append, String.toList_ofList, text]
    have few := isStem.length
    rw [whole, String.utf8ByteSize_append, utf8ByteSize_of_plain isStem.plain]
    have size : ending.utf8ByteSize ≤ 6 := by
      rcases ends with rfl | rfl <;> decide
    omega

theorem IsName.ordinary {stem : List Char} {ending name : String} (isName : IsName stem ending name)
    (nonempty : 2 ≤ stem.length) : IsOrdinary name := by
  have long : 2 ≤ name.toList.length := by
    rw [isName.text, List.length_append]
    omega
  refine ⟨isName.slashless, ?_, ?_⟩
  · rintro rfl
    exact absurd long (by decide)
  · rintro rfl
    exact absurd long (by decide)

/-! ## Both files -/

/-- The files of a job are children of a directory, under one stem, and when they are removed
nothing else is. -/
structure Confined (directory : String) (drawn : Nat) (scratch : Scratch) : Prop where
  named : ∃ stem, IsStem drawn stem ∧ IsName stem ".input" scratch.input ∧
    IsName stem ".wav" scratch.wave
  inside : ∀ name ∈ [scratch.input, scratch.wave],
    scratch.path name ∈ [directory ++ name, directory ++ "/" ++ name] ∧
    Path.ofText (scratch.path name) = Path.ofText directory ++ [name]
  removed : ∀ files path, (scratch.removeFrom files).content? path =
    if path ∈ [Path.ofText directory ++ [scratch.input], Path.ofText directory ++ [scratch.wave]]
    then none else files.content? path
  kept : ∀ files, (scratch.removeFrom files).directories = files.directories

theorem Scratch.removeFrom_eq (scratch : Scratch) (files : Files) :
    scratch.removeFrom files = (scratch.paths.map Path.ofText).foldl Files.remove files :=
  List.foldl_map.symm

theorem confined_of (directory jobId : String) (drawn : Nat) :
    Confined directory drawn (Scratch.of directory jobId drawn) := by
  have isStem := isStem_sharedName jobId drawn
  have isInput : IsName (Scratch.sharedName jobId drawn).toList ".input"
      (Scratch.of directory jobId drawn).input :=
    isName_of_stem isStem (Or.inl rfl) String.toList_append
  have isWave : IsName (Scratch.sharedName jobId drawn).toList ".wav"
      (Scratch.of directory jobId drawn).wave :=
    isName_of_stem isStem (Or.inr rfl) String.toList_append
  have ordinary : ∀ name ∈ [(Scratch.of directory jobId drawn).input,
      (Scratch.of directory jobId drawn).wave], IsOrdinary name := by
    have long : 2 ≤ (Scratch.sharedName jobId drawn).toList.length := by
      have few := isStem.length
      omega
    exact List.forall_mem_cons.mpr
      ⟨isInput.ordinary long, List.forall_mem_singleton.mpr (isWave.ordinary long)⟩
  have child : ∀ name ∈ [(Scratch.of directory jobId drawn).input,
      (Scratch.of directory jobId drawn).wave],
      Path.ofText ((Scratch.of directory jobId drawn).path name) =
        Path.ofText directory ++ [name] :=
    fun name member => Path.ofText_join directory (ordinary name member)
  refine ⟨⟨_, isStem, isInput, isWave⟩, fun name member => ⟨?_, child name member⟩,
    fun files path => ?_, fun files => ?_⟩
  · rcases Path.join_ordinary directory (ordinary name member) with ⟨joined, _⟩ | joined
    · exact List.mem_cons.mpr (Or.inl joined)
    · exact List.mem_cons_of_mem _ (List.mem_singleton.mpr joined)
  · obtain ⟨input, wave⟩ := List.forall_mem_cons.mp child
    rw [Scratch.removeFrom_eq, Files.content?_removeAll, Scratch.paths, List.map_cons,
      List.map_cons, List.map_nil, input, List.forall_mem_singleton.mp wave]
  · rw [Scratch.removeFrom_eq, Files.directories_removeAll]

end Scribe.Audio

namespace Scribe.Processor

open Scribe.Audio (Confined Scratch confined_of)
open Scribe.Delivery
open Scribe.Dialogue
open Scribe.Work

/-! ## What the handling of a message removes -/

variable {processor : Processor} {job : Job} {message : Broker.Message}
  {exchanges : List Exchange} {scratch : Scratch}

/-- The work on a job removes the files that are named after it. -/
theorem Worked.removed {result : Except StageFailure Unit}
    (worked : Worked processor job exchanges result)
    (member : ⟨.removeScratch scratch, ()⟩ ∈ exchanges) :
    ∃ drawn, scratch = .of processor.directory job.jobId drawn := by
  cases worked with
  | homeless => simp at member
  | @housed drawn own middle _ named carried =>
      have first : (⟨.removeScratch scratch, ()⟩ : Exchange) ∈
          middle ++ [⟨.removeScratch own, ()⟩] := by simpa using member
      rcases List.mem_append.mp first with working | removing
      · cases carried.confined.keeps _ working
      · cases List.mem_singleton.mp removing
        exact ⟨drawn, named⟩

/-- No other files are removed in the handling of a message. -/
theorem removed_of_process {disposition : Disposition}
    (course : Course (processor.process message) exchanges disposition)
    (member : ⟨.removeScratch scratch, ()⟩ ∈ exchanges) :
    ∃ jobId drawn, scratch = .of processor.directory jobId drawn := by
  have unremoved {payload : Option Json} {job : Option Job} {failed : StageFailure}
      {late : List Exchange} {end_ : Disposition}
      (failing : Course (processor.fail message payload job failed) late end_) :
      ⟨.removeScratch scratch, ()⟩ ∉ late := by
    intro inside
    have allowed := isAftermath_fail processor message payload job failed _ _ failing _ inside
    cases allowed
  cases traced_of_process course with
  | refused _ _ failing => exact absurd member (unremoved failing)
  | duplicate => simp at member
  | @completed job _ _ worked =>
      have working := (List.mem_cons.mp member).resolve_left (by simp)
      exact ⟨job.jobId, worked.removed working⟩
  | @broken _ job _ _ _ _ _ _ worked failing =>
      have later := (List.mem_cons.mp member).resolve_left (by simp)
      have working := (List.mem_append.mp later).resolve_right (unremoved failing)
      exact ⟨job.jobId, worked.removed working⟩

end Scribe.Processor

namespace Scribe.Audio

open Scribe.Dialogue

/-- The scratch files of a job are children of the directory, whatever its id consists of, and
the handling of a message removes no other files than such. -/
theorem scratch_confined :
    (∀ directory jobId drawn, Confined directory drawn (Scratch.of directory jobId drawn)) ∧
    ∀ (processor : Processor) message exchanges disposition scratch,
      Course (processor.process message) exchanges disposition →
      ⟨.removeScratch scratch, ()⟩ ∈ exchanges →
      ∃ drawn, Confined processor.directory drawn scratch := by
  refine ⟨confined_of, fun processor message exchanges disposition scratch course member => ?_⟩
  obtain ⟨jobId, drawn, rfl⟩ := Processor.removed_of_process course member
  exact ⟨drawn, confined_of _ jobId drawn⟩

/-- An id that would lead out of the directory. -/
theorem scratch_confined_upwards :
    let processor : Processor :=
      { directory := "/tmp/stt", selector := ⟨⟨.whisper, "small"⟩, none, {}⟩ }
    let message : Broker.Message :=
      { topic := "stt.jobs"
        partition := 0
        offset := 7
        key := none
        payload := ("\x7b\"jobId\":\"../../etc/passwd\",\"taskId\":\"b\"," ++
          "\"audioUrl\":\"http://[::1]/\",\"createdAt\":\"2026-01-01T00:00:00Z\"\x7d").toUTF8
        headers := []
        id := "7-0" }
    let scratch : Scratch :=
      { directory := "/tmp/stt"
        input := "______etc_passwd-00000000000000000000000000000000.input"
        wave := "______etc_passwd-00000000000000000000000000000000.wav" }
    ∃ exchanges disposition, Course (processor.process message) exchanges disposition ∧
      ⟨.removeScratch scratch, ()⟩ ∈ exchanges ∧
      ∃ drawn, Confined processor.directory drawn scratch := by
  intro processor message scratch
  let once := (processor.process message).follow (Work.obliging (.ok ()))
  have course : Course (processor.process message) once.1 once.2 := course_follow _ _
  have removed : some scratch ∈ once.1.map (·.question.removal?) := by decide +kernel
  have member : ⟨.removeScratch scratch, ()⟩ ∈ once.1 := by
    obtain ⟨⟨question, answer⟩, inside, same⟩ := List.mem_map.mp removed
    obtain rfl := Work.Request.removal?_eq_some_iff.mp same
    exact inside
  exact ⟨once.1, once.2, course, member,
    scratch_confined.2 processor message once.1 once.2 scratch course member⟩

end Scribe.Audio
