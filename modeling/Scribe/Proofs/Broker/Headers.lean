import Scribe.Broker.Message
import Scribe.Proofs.Text.Numeral

/-!
# Headers and the attempt count

To set a header changes that header and no other one, and keeps headers in the order of their
names.  An attempt count that was set is read again, and no header text is read as a count of
more than 32 bits.
-/

namespace Scribe.Broker

open Scribe.Text

namespace Headers

/-- The headers without the one of a name. -/
def without (name : String) (headers : Headers) : Headers :=
  headers.filter fun header => decide (header.1 ≠ name)

theorem get?_set_self (name text : String) (headers : Headers) :
    (headers.set name text).get? name = some text := by
  induction headers with
  | nil => simp [set, get?]
  | cons header rest ih =>
      obtain ⟨other, old⟩ := header
      simp only [set]
      split
      · simp [get?]
      · split
        · simp [get?]
        next differs =>
          rw [get?, if_neg (Ne.symm differs)]
          exact ih

theorem without_set (name text : String) (headers : Headers) :
    (headers.set name text).without name = headers.without name := by
  induction headers with
  | nil => simp [set, without]
  | cons header rest ih =>
      obtain ⟨other, old⟩ := header
      simp only [set]
      split
      · simp [without]
      · split
        next same => simp [without, same]
        next differs =>
          simp only [without, List.filter_cons] at ih ⊢
          rw [ih]

theorem set_ne_nil (name text : String) (headers : Headers) : headers.set name text ≠ [] := by
  intro empty
  have found := get?_set_self name text headers
  rw [empty] at found
  cases found

/-- The names ascend, so that none of them stands twice. -/
def Ordered (headers : Headers) : Prop :=
  headers.Pairwise fun one other => one.1 < other.1

theorem mem_set {name text : String} {headers : Headers} {header : String × String}
    (member : header ∈ headers.set name text) : header = (name, text) ∨ header ∈ headers := by
  induction headers with
  | nil => exact Or.inl (List.mem_singleton.mp member)
  | cons first rest ih =>
      obtain ⟨other, old⟩ := first
      simp only [set] at member
      split at member
      · exact List.mem_cons.mp member
      · split at member
        · rcases List.mem_cons.mp member with same | later
          · exact Or.inl same
          · exact Or.inr (List.mem_cons_of_mem _ later)
        · rcases List.mem_cons.mp member with same | later
          · exact Or.inr (same ▸ List.mem_cons_self)
          · exact (ih later).imp_right (List.mem_cons_of_mem _)

theorem Ordered.set {headers : Headers} (ordered : headers.Ordered) (name text : String) :
    (headers.set name text).Ordered := by
  induction headers with
  | nil => exact List.pairwise_singleton _ _
  | cons first rest ih =>
      obtain ⟨other, old⟩ := first
      obtain ⟨above, tail⟩ := List.pairwise_cons.mp ordered
      simp only [Headers.set]
      split
      next below =>
        refine List.pairwise_cons.mpr ⟨?_, ordered⟩
        intro header member
        rcases List.mem_cons.mp member with rfl | later
        · exact below
        · exact String.lt_trans below (above header later)
      next notBelow =>
        split
        next same =>
          subst same
          exact List.pairwise_cons.mpr ⟨above, tail⟩
        next differs =>
          refine List.pairwise_cons.mpr ⟨?_, ih tail⟩
          intro header member
          rcases mem_set member with rfl | later
          · exact Std.lt_of_le_of_ne (String.not_lt.mp notBelow) (Ne.symm differs)
          · exact above header later

/-- A header whose name is above all others comes last. -/
theorem set_of_above {name text : String} {headers : Headers}
    (above : ∀ header ∈ headers, header.1 < name) :
    headers.set name text = headers ++ [(name, text)] := by
  induction headers with
  | nil => rfl
  | cons first rest ih =>
      obtain ⟨other, old⟩ := first
      have below : other < name := above (other, old) List.mem_cons_self
      have differs : name ≠ other := fun same => String.lt_irrefl name (same ▸ below)
      rw [set, if_neg (String.lt_asymm below), if_neg differs,
        ih fun header member => above header (List.mem_cons_of_mem _ member)]
      rfl

end Headers

/-- An attempt count that was written is read. -/
theorem readAttempt_decimal {attempt : Nat} (fits : attempt ≤ max32) :
    readAttempt (decimal attempt) = attempt := by
  simp [readAttempt, decimal, trimChars_decimalChars, readNatural_decimalChars fits]

theorem readAttempt_le (text : String) : readAttempt text ≤ max32 := by
  rw [readAttempt]
  split
  next read => exact readNatural_le read
  next => exact Nat.zero_le _

namespace Message

theorem attempt_le (message : Message) : message.attempt ≤ max32 := by
  rw [attempt]
  split
  next text _ => exact readAttempt_le text
  next => exact Nat.zero_le _

theorem attempt_of_header {message : Message} {headers : Headers} {attempt : Nat}
    (header : message.headers = headers.set attemptHeader (decimal attempt))
    (fits : attempt ≤ max32) : message.attempt = attempt := by
  have found : message.header? attemptHeader = some (decimal attempt) := by
    rw [header?, header]
    exact headers.get?_set_self _ _
  simp only [Message.attempt, found]
  exact readAttempt_decimal fits

end Message

end Scribe.Broker
