import Mathlib.Algebra.Group.Nat.Defs
import Scribe.Text.Blank
import Scribe.Text.Numeral

/-!
# Decimals read back

A number is written with digits alone, and reading these digits one by one gives the number
again, as long as it is not above the limit; zeros in front do not matter.  As no digit is blank
and none is a sign, neither trimming nor a reader that would take a sign sees anything else in
them.
-/

namespace Scribe.Text

/-! ## Digits -/

theorem digit?_digitChar {value : Nat} (small : value < 10) :
    digit? (digitChar value) = some value := by
  have each : ∀ value < 10, digit? (digitChar value) = some value := by decide
  exact each value small

theorem lt_ten_of_digit {c : Char} {value : Nat} (digit : digit? c = some value) : value < 10 := by
  unfold digit? at digit
  split at digit
  next between =>
    have high : c.toNat ≤ 57 := between.2
    have zero : '0'.toNat = 48 := rfl
    cases digit
    omega
  next => cases digit

theorem isBlank_of_digit {c : Char} {value : Nat} (digit : digit? c = some value) :
    isBlank c = false := by
  unfold digit? at digit
  split at digit
  next between =>
    obtain ⟨low, high⟩ := between
    have lowCode : '0'.toNat ≤ c.toNat := low
    have highCode : c.toNat ≤ '9'.toNat := high
    have zero : '0'.toNat = 48 := rfl
    have nine : '9'.toNat = 57 := rfl
    simp only [isBlank, Bool.or_eq_false_iff, Bool.and_eq_false_iff, decide_eq_false_iff_not,
      beq_eq_false_iff_ne]
    omega
  next => cases digit

/-- A number is written with digits alone. -/
theorem digit_of_mem_decimalChars {value : Nat} {c : Char} (member : c ∈ decimalChars value) :
    ∃ digit, digit? c = some digit := by
  induction value using decimalChars.induct with
  | case1 value small =>
      rw [decimalChars, if_pos small] at member
      cases List.mem_singleton.mp member
      exact ⟨value, digit?_digitChar small⟩
  | case2 value large ih =>
      rw [decimalChars, if_neg large] at member
      rcases List.mem_append.mp member with front | last
      · exact ih front
      · cases List.mem_singleton.mp last
        exact ⟨value % 10, digit?_digitChar (Nat.mod_lt _ (by decide))⟩

theorem decimalChars_ne_nil (value : Nat) : decimalChars value ≠ [] := by
  rw [decimalChars]
  split
  · exact List.cons_ne_nil _ _
  · simp

/-! ## Reading -/

theorem readDigits_append {limit middle : Nat} {overflow : IntegerFault} {front : List Char}
    {value : Nat} (back : List Char)
    (read : readDigits limit overflow value front = .ok middle) :
    readDigits limit overflow value (front ++ back) =
      readDigits limit overflow middle back := by
  induction front generalizing value with
  | nil =>
      cases read
      rfl
  | cons c rest ih =>
      simp only [List.cons_append, readDigits] at read ⊢
      split at read
      · cases read
      · split at read
        next digit _ fits =>
          rw [if_pos fits]
          exact ih read
        next => cases read

/-- What was written is read. -/
theorem readDigits_decimalChars {limit value : Nat} (overflow : IntegerFault)
    (fits : value ≤ limit) : readDigits limit overflow 0 (decimalChars value) = .ok value := by
  induction value using decimalChars.induct with
  | case1 value small =>
      rw [decimalChars, if_pos small]
      simp [readDigits, digit?_digitChar small, fits]
  | case2 value large ih =>
      have front := ih (by omega)
      have last := digit?_digitChar (Nat.mod_lt value (by decide : 10 > 0))
      have whole : value / 10 * 10 + value % 10 = value := by omega
      rw [decimalChars, if_neg large, readDigits_append _ front]
      simp [readDigits, last, whole, fits]

theorem readDigits_le {limit value result : Nat} {overflow : IntegerFault} {text : List Char}
    (small : value ≤ limit) (read : readDigits limit overflow value text = .ok result) :
    result ≤ limit := by
  induction text generalizing value with
  | nil =>
      cases read
      exact small
  | cons c rest ih =>
      simp only [readDigits] at read
      split at read
      · cases read
      · split at read
        next fits => exact ih fits read
        next => cases read

/-- No number above the limit is read. -/
theorem readNatural_le {limit result : Nat} {text : List Char}
    (read : readNatural limit text = .ok result) : result ≤ limit := by
  unfold readNatural at read
  split at read
  · cases read
  · cases read
  · exact readDigits_le (Nat.zero_le _) read
  · exact readDigits_le (Nat.zero_le _) read

theorem readNatural_decimalChars {limit value : Nat} (fits : value ≤ limit) :
    readNatural limit (decimalChars value) = .ok value := by
  have signless : ∀ rest, decimalChars value ≠ '+' :: rest := by
    intro rest sign
    obtain ⟨digit, isDigit⟩ := digit_of_mem_decimalChars (sign ▸ List.mem_cons_self)
    cases isDigit
  unfold readNatural
  split
  next empty => exact absurd empty (decimalChars_ne_nil value)
  next sign => exact absurd sign (signless [])
  next sign => exact absurd sign (signless _)
  next => exact readDigits_decimalChars .tooLarge fits

/-! ## What is read -/

/-- One or more digits. -/
def IsNumeral (text : List Char) : Prop := text ≠ [] ∧ ∀ c ∈ text, (digit? c).isSome = true

/-- The number that digits after a number stand for. -/
def decimalFrom (value : Nat) (digits : List Char) : Nat :=
  digits.foldl (fun value c => value * 10 + (digit? c).getD 0) value

theorem le_decimalFrom (value : Nat) (digits : List Char) : value ≤ decimalFrom value digits := by
  induction digits generalizing value with
  | nil => exact Nat.le_refl value
  | cons c rest ih =>
      have step := ih (value * 10 + (digit? c).getD 0)
      rw [decimalFrom, List.foldl_cons]
      rw [decimalFrom] at step
      omega

/-- Digits are read if the number that they stand for is not above the limit. -/
theorem readDigits_ok_iff {limit value result : Nat} (overflow : IntegerFault) {text : List Char}
    (small : value ≤ limit) :
    readDigits limit overflow value text = .ok result ↔
      (∀ c ∈ text, (digit? c).isSome = true) ∧ decimalFrom value text = result ∧
        result ≤ limit := by
  induction text generalizing value with
  | nil =>
      constructor
      · rintro ⟨⟩
        exact ⟨by simp, rfl, small⟩
      · rintro ⟨-, rfl, -⟩
        rfl
  | cons c rest ih =>
      rw [readDigits]
      cases digit : digit? c with
      | none => simp [digit]
      | some digitValue =>
          simp only
          have next : decimalFrom value (c :: rest) =
              decimalFrom (value * 10 + digitValue) rest := by
            rw [decimalFrom, List.foldl_cons, digit]
            rfl
          rw [next]
          split
          next fits =>
            rw [ih fits]
            simp [digit]
          next beyond =>
            have large := le_decimalFrom (value * 10 + digitValue) rest
            constructor
            · rintro ⟨⟩
            · rintro ⟨-, rfl, fits⟩
              exact absurd (Nat.le_trans large fits) beyond

/-- A number is read from its digits, with or without a plus sign. -/
theorem readNatural_ok_iff {limit result : Nat} {text : List Char} :
    readNatural limit text = .ok result ↔
      ∃ digits, (text = digits ∨ text = '+' :: digits) ∧ IsNumeral digits ∧
        decimalFrom 0 digits = result ∧ result ≤ limit := by
  have signless : ¬(digit? '+').isSome = true := by decide
  rw [readNatural.eq_def]
  split
  next =>
    constructor
    · rintro ⟨⟩
    · rintro ⟨digits, rfl | same, ⟨some, -⟩, -⟩
      · exact absurd rfl some
      · cases same
  next =>
    constructor
    · rintro ⟨⟩
    · rintro ⟨digits, rfl | same, ⟨some, all⟩, -⟩
      · exact absurd (all '+' List.mem_cons_self) signless
      · cases same
        exact absurd rfl some
  next digits bare =>
    rw [readDigits_ok_iff _ (Nat.zero_le limit)]
    constructor
    · rintro ⟨all, value, fits⟩
      exact ⟨digits, Or.inr rfl, ⟨bare, all⟩, value, fits⟩
    · rintro ⟨_, rfl | same, ⟨-, all⟩, value, fits⟩
      · exact absurd (all '+' List.mem_cons_self) signless
      · cases same
        exact ⟨all, value, fits⟩
  next digits some unsigned unsigned' =>
    rw [readDigits_ok_iff _ (Nat.zero_le limit)]
    constructor
    · rintro ⟨all, value, fits⟩
      exact ⟨_, Or.inl rfl, ⟨some, all⟩, value, fits⟩
    · rintro ⟨digits, rfl | same, ⟨-, all⟩, value, fits⟩
      · exact ⟨all, value, fits⟩
      · exact absurd same (unsigned' digits)

/-! ## Trimming -/

theorem trimLeft_of_unblank {text : List Char} (unblank : ∀ c ∈ text, isBlank c = false) :
    trimLeft text = text := by
  cases text with
  | nil => rfl
  | cons c rest => simp [trimLeft, unblank c List.mem_cons_self]

/-- Where no character is blank there is nothing to trim. -/
theorem trimChars_of_unblank {text : List Char} (unblank : ∀ c ∈ text, isBlank c = false) :
    trimChars text = text := by
  have backwards : ∀ c ∈ text.reverse, isBlank c = false := by
    intro c member
    exact unblank c (List.mem_reverse.mp member)
  rw [trimChars, trimLeft_of_unblank unblank, trimLeft_of_unblank backwards,
    List.reverse_reverse]

theorem trimChars_decimalChars (value : Nat) :
    trimChars (decimalChars value) = decimalChars value := by
  apply trimChars_of_unblank
  intro c member
  obtain ⟨digit, isDigit⟩ := digit_of_mem_decimalChars member
  exact isBlank_of_digit isDigit

/-! ## A given width -/

/-- A number below a power of ten has no more digits than the power. -/
theorem length_decimalChars_le {value width : Nat} (pos : 0 < width) (fits : value < 10 ^ width) :
    (decimalChars value).length ≤ width := by
  induction value using decimalChars.induct generalizing width with
  | case1 value small =>
      rw [decimalChars, if_pos small]
      exact pos
  | case2 value large ih =>
      obtain ⟨width, rfl⟩ : ∃ less, width = less + 1 := ⟨width - 1, by omega⟩
      have more : 0 < width := by
        rcases Nat.eq_zero_or_pos width with rfl | more
        · omega
        · exact more
      have front := ih more
        (Nat.div_lt_of_lt_mul (by rw [Nat.mul_comm, ← Nat.pow_succ]; exact fits))
      rw [decimalChars, if_neg large, List.length_append, List.length_singleton]
      omega

theorem digit?_zero : digit? '0' = some 0 := by decide

theorem toList_paddedDecimal (width value : Nat) : (paddedDecimal width value).toList =
    List.replicate (width - (decimalChars value).length) '0' ++ decimalChars value := by
  rw [paddedDecimal, String.toList_ofList]

theorem digit_of_mem_paddedDecimal {width value : Nat} {c : Char}
    (member : c ∈ (paddedDecimal width value).toList) : ∃ digit, digit? c = some digit := by
  rw [toList_paddedDecimal] at member
  rcases List.mem_append.mp member with filling | digit
  · rw [List.eq_of_mem_replicate filling]
    exact ⟨0, digit?_zero⟩
  · exact digit_of_mem_decimalChars digit

theorem paddedDecimal_ne_nil (width value : Nat) : (paddedDecimal width value).toList ≠ [] := by
  rw [toList_paddedDecimal]
  exact List.append_ne_nil_of_right_ne_nil _ (decimalChars_ne_nil value)

theorem length_paddedDecimal {width value : Nat} (pos : 0 < width) (fits : value < 10 ^ width) :
    (paddedDecimal width value).toList.length = width := by
  have short := length_decimalChars_le pos fits
  rw [toList_paddedDecimal, List.length_append, List.length_replicate]
  omega

theorem readDigits_zeros (limit : Nat) (overflow : IntegerFault) (count : Nat) (back : List Char) :
    readDigits limit overflow 0 (List.replicate count '0' ++ back) =
      readDigits limit overflow 0 back := by
  induction count with
  | zero => rfl
  | succ count ih =>
      rw [List.replicate_succ, List.cons_append, readDigits, digit?_zero]
      simpa using ih

theorem readDigits_paddedDecimal {limit value : Nat} (width : Nat) (overflow : IntegerFault)
    (fits : value ≤ limit) :
    readDigits limit overflow 0 (paddedDecimal width value).toList = .ok value := by
  rw [toList_paddedDecimal, readDigits_zeros]
  exact readDigits_decimalChars overflow fits

/-- Two digits are the tens and the ones. -/
theorem toList_paddedDecimal_two {value : Nat} (small : value < 100) :
    (paddedDecimal 2 value).toList = [digitChar (value / 10), digitChar (value % 10)] := by
  rw [toList_paddedDecimal]
  by_cases single : value < 10
  · rw [decimalChars, if_pos single, Nat.div_eq_of_lt single, Nat.mod_eq_of_lt single]
    rfl
  · rw [decimalChars, if_neg single, decimalChars, if_pos (by omega)]
    rfl

/-! ## Hexadecimal digits -/

/-- The number that hexadecimal digits stand for. -/
def hexValue (digits : List Char) : Nat :=
  digits.foldl (fun value c => value * 16 + (hexDigit? c).getD 0) 0

theorem hexDigit?_hexChar {value : Nat} (small : value < 16) :
    hexDigit? (hexChar value) = some value := by
  have each : ∀ value < 16, hexDigit? (hexChar value) = some value := by decide
  exact each value small

theorem length_hexChars (width value : Nat) : (hexChars width value).length = width := by
  induction width generalizing value with
  | zero => rfl
  | succ width ih => rw [hexChars, List.length_append, ih, List.length_singleton]

theorem hexChar_of_mem_hexChars {width value : Nat} {c : Char} (member : c ∈ hexChars width value) :
    ∃ digit < 16, c = hexChar digit := by
  induction width generalizing value with
  | zero => cases member
  | succ width ih =>
      rcases List.mem_append.mp member with front | last
      · exact ih front
      · exact ⟨value % 16, Nat.mod_lt _ (by decide), List.mem_singleton.mp last⟩

/-- The last digits of a number stand for its rest by a power of sixteen. -/
theorem hexValue_hexChars (width value : Nat) :
    hexValue (hexChars width value) = value % 16 ^ width := by
  induction width generalizing value with
  | zero => exact (Nat.mod_one value).symm
  | succ width ih =>
      have front : hexValue (hexChars width (value / 16)) = value / 16 % 16 ^ width :=
        ih (value / 16)
      have last := hexDigit?_hexChar (Nat.mod_lt value (by decide : 16 > 0))
      rw [hexValue] at front ⊢
      rw [hexChars, List.foldl_append, List.foldl_cons, List.foldl_nil, front, last,
        Option.getD_some, Nat.pow_succ', Nat.mod_mul]
      omega

end Scribe.Text
