/-!
# Dialogues

A dialogue is a computation that may ask its surroundings and goes on with what it
is told. Everything outside is an answer to a question: a dialogue itself has no
effects, and its courses are all ways in which the surroundings can answer.
-/

namespace Scribe

/-- A computation of an `α` that asks questions. -/
inductive Dialogue (Question : Type) (Answer : Question → Type) (α : Type) : Type
  | done (value : α)
  | ask (question : Question) (next : Answer question → Dialogue Question Answer α)

namespace Dialogue

variable {Question : Type} {Answer : Question → Type} {α β σ : Type}

/-- Go on with the value of a dialogue. -/
def bind : Dialogue Question Answer α → (α → Dialogue Question Answer β) →
    Dialogue Question Answer β
  | .done value, next => next value
  | .ask question continue_, next => .ask question fun answer => (continue_ answer).bind next

instance : Monad (Dialogue Question Answer) where
  pure := .done
  bind := Dialogue.bind

/-- Ask one question. -/
def query (question : Question) : Dialogue Question Answer (Answer question) :=
  .ask question .done

/-- Carry a dialogue through with surroundings that have a state. -/
def run (reply : (question : Question) → σ → Answer question × σ) :
    Dialogue Question Answer α → σ → α × σ
  | .done value, state => (value, state)
  | .ask question next, state =>
      let (answer, state) := reply question state
      (next answer).run reply state

/-- A question with its answer. -/
structure Exchange (Question : Type) (Answer : Question → Type) where
  question : Question
  answer : Answer question

/-- The exchanges that lead a dialogue to a value. -/
inductive Course : Dialogue Question Answer α → List (Exchange Question Answer) → α → Prop
  | done (value : α) : Course (.done value) [] value
  | ask (question : Question) (next : Answer question → Dialogue Question Answer α)
      (answer : Answer question) {rest : List (Exchange Question Answer)} {value : α}
      (later : Course (next answer) rest value) :
      Course (.ask question next) (⟨question, answer⟩ :: rest) value

@[simp] theorem pure_eq_done (value : α) :
    (pure value : Dialogue Question Answer α) = .done value := rfl

@[simp] theorem bind_done (value : α) (next : α → Dialogue Question Answer β) :
    (Dialogue.done value >>= next) = next value := rfl

@[simp] theorem bind_ask (question : Question)
    (continue_ : Answer question → Dialogue Question Answer α)
    (next : α → Dialogue Question Answer β) :
    (Dialogue.ask question continue_ >>= next) =
      .ask question fun answer => continue_ answer >>= next := rfl

@[simp] theorem bind_query (question : Question)
    (next : Answer question → Dialogue Question Answer β) :
    (query question >>= next) = .ask question next := rfl

end Dialogue

end Scribe
