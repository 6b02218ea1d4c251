import Scribe.Dialogue

/-!
# Courses of dialogues

A course of a composed dialogue is a course of its first part followed by one of the rest,
and whatever the surroundings answer, every dialogue has a course.  A dialogue that is
still under way is led to what is left of it by the exchanges so far.
-/

namespace Scribe.Dialogue

variable {Question : Type} {Answer : Question → Type} {α β : Type}

/-! ## Whole courses -/

theorem course_done_iff {value result : α} {exchanges : List (Exchange Question Answer)} :
    Course (.done value) exchanges result ↔ exchanges = [] ∧ result = value := by
  constructor
  · intro course
    cases course
    exact ⟨rfl, rfl⟩
  · rintro ⟨rfl, rfl⟩
    exact .done result

theorem course_ask_iff {question : Question}
    {next : Answer question → Dialogue Question Answer α}
    {exchanges : List (Exchange Question Answer)} {value : α} :
    Course (.ask question next) exchanges value ↔
      ∃ answer rest, exchanges = ⟨question, answer⟩ :: rest ∧
        Course (next answer) rest value := by
  constructor
  · intro course
    cases course with
    | ask _ _ answer later => exact ⟨answer, _, rfl, later⟩
  · rintro ⟨answer, rest, rfl, later⟩
    exact .ask question next answer later

/-- The course of a composition is the course of its first part and then of the rest. -/
theorem course_bind_iff {dialogue : Dialogue Question Answer α}
    {next : α → Dialogue Question Answer β} {exchanges : List (Exchange Question Answer)}
    {value : β} :
    Course (dialogue >>= next) exchanges value ↔
      ∃ early late middle, exchanges = early ++ late ∧ Course dialogue early middle ∧
        Course (next middle) late value := by
  induction dialogue generalizing exchanges with
  | done first =>
      rw [bind_done]
      constructor
      · intro course
        exact ⟨[], exchanges, first, rfl, .done first, course⟩
      · rintro ⟨early, late, middle, rfl, first, rest⟩
        obtain ⟨rfl, rfl⟩ := course_done_iff.mp first
        exact rest
  | ask question continue_ ih =>
      rw [bind_ask, course_ask_iff]
      constructor
      · rintro ⟨answer, rest, rfl, course⟩
        obtain ⟨early, late, middle, rfl, first, second⟩ := (ih answer).mp course
        exact ⟨⟨question, answer⟩ :: early, late, middle, rfl,
          .ask question continue_ answer first, second⟩
      · rintro ⟨early, late, middle, rfl, first, second⟩
        obtain ⟨answer, rest, rfl, later⟩ := course_ask_iff.mp first
        have whole := (ih answer).mpr ⟨rest, late, middle, rfl, later, second⟩
        exact ⟨answer, rest ++ late, rfl, whole⟩

theorem course_pure_iff {value result : α} {exchanges : List (Exchange Question Answer)} :
    Course (pure value) exchanges result ↔ exchanges = [] ∧ result = value :=
  course_done_iff

theorem course_query_iff {question : Question} {exchanges : List (Exchange Question Answer)}
    {answer : Answer question} :
    Course (query question) exchanges answer ↔ exchanges = [⟨question, answer⟩] := by
  unfold query
  rw [course_ask_iff]
  constructor
  · rintro ⟨told, rest, rfl, course⟩
    obtain ⟨rfl, rfl⟩ := course_done_iff.mp course
    rfl
  · rintro rfl
    exact ⟨answer, [], rfl, .done answer⟩

/-- A first question, and then the rest. -/
theorem course_query_bind_iff {question : Question}
    {next : Answer question → Dialogue Question Answer α}
    {exchanges : List (Exchange Question Answer)} {value : α} :
    Course (query question >>= next) exchanges value ↔
      ∃ answer rest, exchanges = ⟨question, answer⟩ :: rest ∧
        Course (next answer) rest value := by
  rw [bind_query]
  exact course_ask_iff

/-- The course with surroundings that have one answer to each question. -/
def follow (reply : (question : Question) → Answer question) :
    Dialogue Question Answer α → List (Exchange Question Answer) × α
  | .done value => ([], value)
  | .ask question next =>
      let later := (next (reply question)).follow reply
      (⟨question, reply question⟩ :: later.1, later.2)

/-- Whatever the surroundings would answer, the dialogue comes to a value. -/
theorem course_follow (reply : (question : Question) → Answer question)
    (dialogue : Dialogue Question Answer α) :
    Course dialogue (dialogue.follow reply).1 (dialogue.follow reply).2 := by
  induction dialogue with
  | done value => exact .done value
  | ask question next ih => exact .ask question next (reply question) (ih (reply question))

theorem exists_course [answers : ∀ question, Nonempty (Answer question)]
    (dialogue : Dialogue Question Answer α) :
    ∃ exchanges value, Course dialogue exchanges value :=
  ⟨_, _, course_follow (fun question => Classical.choice (answers question)) dialogue⟩

theorem answer_of_mem_follow {reply : (question : Question) → Answer question}
    {dialogue : Dialogue Question Answer α} {question : Question} {answer : Answer question}
    (member : ⟨question, answer⟩ ∈ (dialogue.follow reply).1) : answer = reply question := by
  induction dialogue with
  | done value => cases member
  | ask first next ih =>
      cases member with
      | head => rfl
      | tail _ later => exact ih (reply first) later

/-- The course with such surroundings is known by what is asked. -/
theorem course_of_asked (reply : (question : Question) → Answer question)
    {dialogue : Dialogue Question Answer α} {value : α} (questions : List Question)
    (asked : (dialogue.follow reply).1.map Exchange.question = questions)
    (came : (dialogue.follow reply).2 = value) :
    Course dialogue (questions.map fun question => ⟨question, reply question⟩) value := by
  subst asked came
  induction dialogue with
  | done value => exact .done value
  | ask question next ih => exact .ask question next (reply question) (ih (reply question))

/-! ## Exchanges in their places -/

/-- Each exchange has what it takes, given those before it. -/
def EachAfter (holds : List (Exchange Question Answer) → Exchange Question Answer → Prop) :
    (past : List (Exchange Question Answer)) → List (Exchange Question Answer) → Prop
  | _, [] => True
  | past, exchange :: rest => holds past exchange ∧ EachAfter holds (past ++ [exchange]) rest

section

variable {holds : List (Exchange Question Answer) → Exchange Question Answer → Prop}
  {past early late : List (Exchange Question Answer)}

theorem EachAfter.append (first : EachAfter holds past early)
    (rest : EachAfter holds (past ++ early) late) : EachAfter holds past (early ++ late) := by
  induction early generalizing past with
  | nil => rwa [List.append_nil] at rest
  | cons exchange others ih =>
      obtain ⟨here, later⟩ := first
      rw [← List.singleton_append, ← List.append_assoc] at rest
      exact ⟨here, ih later rest⟩

theorem EachAfter.at_split {exchange : Exchange Question Answer}
    (each : EachAfter holds past (early ++ exchange :: late)) : holds (past ++ early) exchange := by
  induction early generalizing past with
  | nil =>
      rw [List.append_nil]
      exact each.1
  | cons first others ih =>
      have later := ih each.2
      rwa [List.append_assoc] at later

/-- What an exchange has after anything that begins with the past, it has in its place. -/
theorem eachAfter_of_forall {exchanges : List (Exchange Question Answer)}
    (always : ∀ exchange ∈ exchanges, ∀ more, holds (past ++ more) exchange) :
    EachAfter holds past exchanges := by
  induction exchanges generalizing past with
  | nil => trivial
  | cons exchange rest ih =>
      refine ⟨?_, ih fun other member more => ?_⟩
      · have here := always exchange List.mem_cons_self []
        rwa [List.append_nil] at here
      · rw [List.append_assoc]
        exact always other (List.mem_cons_of_mem _ member) _

end

/-! ## Runs -/

/-- A composition runs its first part and then the rest, from where the first part has led. -/
theorem run_bind {σ : Type} (reply : (question : Question) → σ → Answer question × σ)
    (dialogue : Dialogue Question Answer α) (next : α → Dialogue Question Answer β) (state : σ) :
    (dialogue >>= next).run reply state =
      (next (dialogue.run reply state).1).run reply (dialogue.run reply state).2 := by
  induction dialogue generalizing state with
  | done value => rfl
  | ask question continue_ ih => exact ih (reply question state).1 (reply question state).2

/-! ## Dialogues under way -/

/-- What is left of a dialogue after some exchanges. -/
inductive Leads : Dialogue Question Answer α → List (Exchange Question Answer) →
    Dialogue Question Answer α → Prop
  | start (dialogue : Dialogue Question Answer α) : Leads dialogue [] dialogue
  | ask (question : Question) (next : Answer question → Dialogue Question Answer α)
      (answer : Answer question) {past : List (Exchange Question Answer)}
      {rest : Dialogue Question Answer α} (later : Leads (next answer) past rest) :
      Leads (.ask question next) (⟨question, answer⟩ :: past) rest

/-- An answer leads one step further. -/
theorem Leads.answer {dialogue : Dialogue Question Answer α}
    {past : List (Exchange Question Answer)} {question : Question}
    {next : Answer question → Dialogue Question Answer α}
    (leads : Leads dialogue past (.ask question next)) (answer : Answer question) :
    Leads dialogue (past ++ [⟨question, answer⟩]) (next answer) := by
  generalize same : Dialogue.ask question next = rest at leads
  induction leads with
  | start dialogue =>
      subst same
      exact .ask question next answer (.start (next answer))
  | ask first continue_ told later ih => exact .ask first continue_ told (ih same)

/-- A course of what is left completes the course of the whole. -/
theorem Leads.course {dialogue rest : Dialogue Question Answer α}
    {past late : List (Exchange Question Answer)} {value : α}
    (leads : Leads dialogue past rest) (course : Course rest late value) :
    Course dialogue (past ++ late) value := by
  induction leads with
  | start dialogue => exact course
  | ask question next answer later ih => exact .ask question next answer (ih course)

theorem Leads.course_of_done {dialogue : Dialogue Question Answer α}
    {past : List (Exchange Question Answer)} {value : α}
    (leads : Leads dialogue past (.done value)) : Course dialogue past value := by
  have whole := leads.course (.done value)
  rwa [List.append_nil] at whole

end Scribe.Dialogue
