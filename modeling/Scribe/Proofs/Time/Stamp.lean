import Scribe.Proofs.Outcome
import Scribe.Proofs.Text.Numeral
import Scribe.Proofs.Time.Calendar
import Scribe.Time.Stamp

/-!
# Time stamps read back

Every part of a stamp is read as it was written, and what follows it is left alone; so a stamp
that fits into the calendar is read from its own text.  Every stamp that is read fits, and so
does its turn to universal time, which means the same instant.
-/

namespace Scribe.Time.Stamp

open Scribe.Text

/-! ## Numbers -/

/-- A text that no number goes on in. -/
def Halts (text : List Char) : Prop :=
  ∀ c ∈ text.head?, digit? c = none

theorem readMore_append {count value middle : Nat} {overflow : IntegerFault} {front : List Char}
    (back : List Char) (read : readDigits maxSigned64 overflow value front = .ok middle)
    (short : front.length ≤ count) :
    readMore count value (front ++ back) = readMore (count - front.length) middle back := by
  induction front generalizing count value with
  | nil =>
      cases read
      rfl
  | cons c rest ih =>
      obtain ⟨count, rfl⟩ : ∃ less, count = less + 1 := ⟨count - 1, by simp at short; omega⟩
      rw [readDigits] at read
      split at read
      · cases read
      · split at read
        next digit isDigit fits =>
          rw [List.cons_append, readMore, isDigit]
          simp only [if_pos fits]
          rw [ih read (Nat.le_of_succ_le_succ short), List.length_cons, Nat.succ_sub_succ]
        next => cases read

theorem readMore_halts {text : List Char} (halts : Halts text) (count value : Nat) :
    readMore count value text = .ok (value, text) := by
  cases count with
  | zero => rw [readMore]
  | succ count =>
      cases text with
      | nil => simp [readMore]
      | cons c rest => rw [readMore, halts c rfl]

/-- A number of full width, or one that something else follows, is read as it was written. -/
theorem readNumber_paddedDecimal {count width value : Nat} {rest : List Char}
    (fits : value ≤ maxSigned64) (short : (paddedDecimal width value).toList.length ≤ count)
    (ends : (paddedDecimal width value).toList.length = count ∨ Halts rest) :
    readNumber count ((paddedDecimal width value).toList ++ rest) = .ok (value, rest) := by
  have read :
      readMore count 0 ((paddedDecimal width value).toList ++ rest) = .ok (value, rest) := by
    rw [readMore_append rest (readDigits_paddedDecimal width .tooLarge fits) short]
    rcases ends with full | halts
    · rw [full, Nat.sub_self, readMore]
    · exact readMore_halts halts _ _
  obtain ⟨c, digits, spelled⟩ := List.exists_cons_of_ne_nil (paddedDecimal_ne_nil width value)
  obtain ⟨digit, isDigit⟩ := digit_of_mem_paddedDecimal (spelled ▸ List.mem_cons_self)
  rw [spelled, List.length_cons] at short
  obtain ⟨count, rfl⟩ : ∃ less, count = less + 1 := ⟨count - 1, by omega⟩
  have small : digit ≤ maxSigned64 := le_trans (Nat.le_of_lt (lt_ten_of_digit isDigit)) (by decide)
  rw [spelled, List.cons_append] at read ⊢
  simpa [readNumber, readMore, isDigit, small] using read

theorem trimLeft_paddedDecimal (width value : Nat) (rest : List Char) :
    trimLeft ((paddedDecimal width value).toList ++ rest) =
      (paddedDecimal width value).toList ++ rest := by
  obtain ⟨c, digits, spelled⟩ := List.exists_cons_of_ne_nil (paddedDecimal_ne_nil width value)
  obtain ⟨digit, isDigit⟩ := digit_of_mem_paddedDecimal (spelled ▸ List.mem_cons_self)
  rw [spelled, List.cons_append, trimLeft, List.dropWhile_cons_of_neg]
  rw [isBlank_of_digit isDigit]
  exact Bool.false_ne_true

/-! ## Parts of a stamp -/

theorem readField_paddedDecimal {low high value : Nat} {rest : List Char} (least : low ≤ value)
    (most : value ≤ high) (two : value < 100) :
    readField low high ((paddedDecimal 2 value).toList ++ rest) = .ok (value, rest) := by
  have width : (paddedDecimal 2 value).toList.length = 2 := length_paddedDecimal (by decide) two
  have fits : value ≤ maxSigned64 := le_trans (Nat.le_of_lt two) (by decide)
  rw [readField, trimLeft_paddedDecimal, readNumber_paddedDecimal fits width.le (.inl width)]
  exact if_pos ⟨least, most⟩

theorem readSign_self {sign : Char} (unblank : isBlank sign = false) (rest : List Char) :
    readSign sign (sign :: rest) = .ok rest := by
  rw [readSign, trimLeft, List.dropWhile_cons_of_neg (by rw [unblank]; exact Bool.false_ne_true)]
  exact if_pos rfl

theorem readYear_minus {value : Nat} {digits rest : List Char}
    (read : readNumber digits.length digits = .ok (value, rest)) (small : value < 0x80000000) :
    readYear ('-' :: digits) = .ok (-(value : Int), rest) := by
  have within : (-0x80000000 : Int) ≤ -(value : Int) ∧ -(value : Int) < 0x80000000 := by omega
  have sign : trimLeft ('-' :: digits) = '-' :: digits := rfl
  rw [readYear, sign]
  simp only [read, Except.map, bind, Except.bind]
  rw [if_pos within]

theorem readYear_plus {value : Nat} {digits rest : List Char}
    (read : readNumber digits.length digits = .ok (value, rest)) (small : value < 0x80000000) :
    readYear ('+' :: digits) = .ok ((value : Int), rest) := by
  have within : (-0x80000000 : Int) ≤ (value : Int) ∧ (value : Int) < 0x80000000 := by omega
  have sign : trimLeft ('+' :: digits) = '+' :: digits := rfl
  rw [readYear, sign]
  simp only [read, Except.map, bind, Except.bind]
  rw [if_pos within]

theorem readYear_digits {value digit : Nat} {c : Char} {digits rest : List Char}
    (isDigit : digit? c = some digit)
    (read : readNumber 4 (c :: digits) = .ok (value, rest)) (small : value < 0x80000000) :
    readYear (c :: digits) = .ok ((value : Int), rest) := by
  have within : (-0x80000000 : Int) ≤ (value : Int) ∧ (value : Int) < 0x80000000 := by omega
  have start : trimLeft (c :: digits) = c :: digits :=
    List.dropWhile_cons_of_neg (by rw [isBlank_of_digit isDigit]; exact Bool.false_ne_true)
  rw [readYear, start]
  split
  next minus => cases minus; cases isDigit
  next plus => cases plus; cases isDigit
  next =>
    simp only [read, Except.map, bind, Except.bind]
    rw [if_pos within]

theorem readYear_renderYear {year : Int} {rest : List Char} (least : yearRange.1 ≤ year)
    (most : year ≤ yearRange.2) (halts : Halts rest) :
    readYear ((renderYear year).toList ++ rest) = .ok (year, rest) := by
  have least : -262143 ≤ year := least
  have most : year ≤ 262142 := most
  have small : year.natAbs < 0x80000000 := by omega
  have fits : year.natAbs ≤ maxSigned64 := by
    have : maxSigned64 = 9223372036854775807 := rfl
    omega
  have behindSign : ∀ sign : String,
      (sign ++ paddedDecimal 4 year.natAbs).toList ++ rest =
        sign.toList ++ ((paddedDecimal 4 year.natAbs).toList ++ rest) := fun sign => by
    rw [String.toList_append, List.append_assoc]
  have signed : readNumber ((paddedDecimal 4 year.natAbs).toList ++ rest).length
      ((paddedDecimal 4 year.natAbs).toList ++ rest) = .ok (year.natAbs, rest) :=
    readNumber_paddedDecimal fits (by simp) (.inr halts)
  rw [renderYear]
  split
  next plain =>
    have width : (paddedDecimal 4 year.natAbs).toList.length = 4 :=
      length_paddedDecimal (by decide) (by omega)
    have read : readNumber 4 ((paddedDecimal 4 year.natAbs).toList ++ rest) =
      .ok (year.natAbs, rest) := readNumber_paddedDecimal fits width.le (.inl width)
    have same : (year.natAbs : Int) = year := Int.natAbs_of_nonneg plain.1
    obtain ⟨c, digits, spelled⟩ := List.exists_cons_of_ne_nil (paddedDecimal_ne_nil 4 year.natAbs)
    obtain ⟨digit, isDigit⟩ := digit_of_mem_paddedDecimal (spelled ▸ List.mem_cons_self)
    rw [spelled, List.cons_append] at read ⊢
    rw [readYear_digits isDigit read small, same]
  next =>
    rw [behindSign]
    split
    next negative =>
      have same : -(year.natAbs : Int) = year := by omega
      exact (readYear_minus signed small).trans (by rw [same])
    next =>
      have same : (year.natAbs : Int) = year := Int.natAbs_of_nonneg (by omega)
      exact (readYear_plus signed small).trans (by rw [same])

/-! ## Fractions and offsets -/

theorem readFraction_digits {width value : Nat} {rest : List Char} (pos : 0 < width)
    (le : width ≤ 9) (fits : value < 10 ^ width) (halts : Halts rest) :
    readFraction ('.' :: ((paddedDecimal width value).toList ++ rest)) =
      .ok (value * 10 ^ (9 - width), rest) := by
  have length : (paddedDecimal width value).toList.length = width := length_paddedDecimal pos fits
  have small : value ≤ maxSigned64 :=
    le_trans (Nat.le_of_lt (lt_of_lt_of_le fits (Nat.pow_le_pow_right (by decide) le))) (by decide)
  have read : readNumber 9 ((paddedDecimal width value).toList ++ rest) = .ok (value, rest) :=
    readNumber_paddedDecimal small (length.le.trans le) (.inr halts)
  have taken : ((paddedDecimal width value).toList ++ rest).length - rest.length = width := by
    rw [List.length_append, length, Nat.add_sub_cancel]
  have after : rest.dropWhile (fun c => (digit? c).isSome) = rest := by
    cases rest with
    | nil => rfl
    | cons c more =>
        exact List.dropWhile_cons_of_neg (by rw [halts c rfl]; exact Bool.false_ne_true)
  rw [readFraction, read]
  show Except.ok (value * Nat.pow 10 (9 - _), rest.dropWhile _) = _
  rw [taken, after]
  rfl

theorem readFraction_renderFraction {nano : Nat} {rest : List Char} (small : nano < 1000000000)
    (halts : Halts rest) (dotless : rest.head? ≠ some '.') :
    readFraction ((renderFraction nano).toList ++ rest) = .ok (nano, rest) := by
  rw [renderFraction]
  split
  next none =>
    rw [none]
    show readFraction rest = _
    unfold readFraction
    split
    · exact absurd rfl dotless
    · rfl
  split
  next whole =>
    have digits : readFraction ('.' :: ((paddedDecimal 3 (nano / 1000000)).toList ++ rest)) = _ :=
      readFraction_digits (by decide) (by decide) (by omega) halts
    have same : nano / 1000000 * 10 ^ (9 - 3) = nano := by omega
    rw [same] at digits
    rw [String.toList_append]
    exact digits
  split
  next whole =>
    have digits : readFraction ('.' :: ((paddedDecimal 6 (nano / 1000)).toList ++ rest)) = _ :=
      readFraction_digits (by decide) (by decide) (by omega) halts
    have same : nano / 1000 * 10 ^ (9 - 6) = nano := by omega
    rw [same] at digits
    rw [String.toList_append]
    exact digits
  · have digits : readFraction ('.' :: ((paddedDecimal 9 nano).toList ++ rest)) = _ :=
      readFraction_digits (by decide) (by decide) (by omega) halts
    have same : nano * 10 ^ (9 - 9) = nano := by omega
    rw [same] at digits
    rw [String.toList_append]
    exact digits

theorem readPair_paddedDecimal {value : Nat} {rest : List Char} (two : value < 100) :
    readPair ((paddedDecimal 2 value).toList ++ rest) = .ok ((value / 10, value % 10), rest) := by
  rw [toList_paddedDecimal_two two]
  simp only [List.cons_append, List.nil_append, readPair]
  rw [digit?_digitChar (by omega), digit?_digitChar (by omega)]

/-- What is written behind the clock. -/
def renderZone (offset : Int) : String :=
  if offset = 0 then "Z" else renderOffset offset

theorem readOffset_sign {negative : Bool} {hours minutes : Nat} (hour : hours < 100)
    (minute : minutes < 60) :
    readOffset ((if negative then '-' else '+') ::
        ((paddedDecimal 2 hours).toList ++ (':' :: (paddedDecimal 2 minutes).toList))) =
      .ok (if negative then -((hours * 3600 + minutes * 60 : Nat) : Int)
        else ((hours * 3600 + minutes * 60 : Nat) : Int), []) := by
  have front : readPair
      ((paddedDecimal 2 hours).toList ++ ':' :: (paddedDecimal 2 minutes).toList) = _ :=
    readPair_paddedDecimal hour
  have back : readPair ((paddedDecimal 2 minutes).toList ++ []) = _ :=
    readPair_paddedDecimal (by omega)
  rw [List.append_nil] at back
  have between : (':' :: (paddedDecimal 2 minutes).toList).dropWhile
      (fun c => c == ':' || isBlank c) = (paddedDecimal 2 minutes).toList := by
    obtain ⟨c, digits, spelled⟩ := List.exists_cons_of_ne_nil (paddedDecimal_ne_nil 2 minutes)
    obtain ⟨digit, isDigit⟩ := digit_of_mem_paddedDecimal (spelled ▸ List.mem_cons_self)
    have colonless : c ≠ ':' := fun colon => by rw [colon] at isDigit; cases isDigit
    rw [spelled]
    simp [colonless, isBlank_of_digit isDigit]
  have tens : ¬6 ≤ minutes / 10 := by omega
  have hoursOf : hours / 10 * 10 + hours % 10 = hours := by omega
  have minutesOf : minutes / 10 * 10 + minutes % 10 = minutes := by omega
  cases negative <;>
    simp [readOffset, front, between, back, tens, hoursOf, minutesOf, bind, Except.bind, pure,
      Except.pure]

theorem readOffset_renderZone {offset : Int} (day : offset.natAbs < 86400)
    (minutes : offset % 60 = 0) : readOffset (renderZone offset).toList = .ok (offset, []) := by
  rw [renderZone]
  split
  next universal =>
    rw [universal]
    rfl
  next =>
    have spelled : (renderOffset offset).toList = (if decide (offset < 0) then '-' else '+') ::
        ((paddedDecimal 2 (offset.natAbs / 60 / 60)).toList ++
          (':' :: (paddedDecimal 2 (offset.natAbs / 60 % 60)).toList)) := by
      simp only [renderOffset, String.toList_append, List.append_assoc]
      by_cases negative : offset < 0 <;> simp [negative]
    rw [spelled, readOffset_sign (by omega) (by omega)]
    congr 2
    split
    next negative => have := of_decide_eq_true negative; omega
    next positive => have := of_decide_eq_false (Bool.eq_false_iff.mpr positive); omega

/-- What is written behind the clock begins with a letter or a sign. -/
theorem head_renderZone (offset : Int) :
    ∃ c rest, (renderZone offset).toList = c :: rest ∧ (c = 'Z' ∨ c = '-' ∨ c = '+') := by
  rw [renderZone]
  split
  · exact ⟨'Z', [], rfl, .inl rfl⟩
  · rw [renderOffset, String.append_assoc, String.append_assoc, String.toList_append]
    split
    · exact ⟨'-', _, rfl, .inr (.inl rfl)⟩
    · exact ⟨'+', _, rfl, .inr (.inr rfl)⟩

/-! ## Stamps -/

/-- A stamp that stands in the calendar, on a clock that is whole minutes from universal time. -/
structure Fits (stamp : Stamp) : Prop where
  date : stamp.date.valid = true
  hour : stamp.hour ≤ 23
  minute : stamp.minute ≤ 59
  second : stamp.second ≤ 59
  nano : stamp.nano < 2000000000
  leap : 1000000000 ≤ stamp.nano → stamp.second = 59
  day : stamp.offset.natAbs < 86400
  minutes : stamp.offset % 60 = 0
  earliest : epochRange.1 ≤ stamp.epochSeconds
  latest : stamp.epochSeconds ≤ epochRange.2

theorem toList_render (stamp : Stamp) : stamp.render.toList =
    (renderYear stamp.date.year).toList ++ ('-' :: ((paddedDecimal 2 stamp.date.month).toList ++
      ('-' :: ((paddedDecimal 2 stamp.date.day).toList ++ ('T' ::
        ((paddedDecimal 2 stamp.hour).toList ++ (':' :: ((paddedDecimal 2 stamp.minute).toList ++
          (':' :: ((paddedDecimal 2 (stamp.second + stamp.nano / 1000000000)).toList ++
            ((renderFraction (stamp.nano % 1000000000)).toList ++
              (renderZone stamp.offset).toList))))))))))) := by
  simp [render, renderClock, renderZone, String.toList_append, List.append_assoc]

theorem halts_of_head {c : Char} {rest : List Char} (digitless : digit? c = none) :
    Halts (c :: rest) := by
  rintro _ ⟨⟩
  exact digitless

theorem check_of_fits {stamp : Stamp} (fits : stamp.Fits) : check stamp = .ok stamp := by
  have early := fits.earliest
  have late := fits.latest
  have day := fits.day
  rw [check, fits.date, if_neg, if_neg]
  · simp only [Bool.or_eq_true, decide_eq_true_eq]
    omega
  · simp only [Bool.not_true, Bool.false_or, decide_eq_true_eq]
    omega

/-- A stamp is read from its text. -/
theorem parse_render {stamp : Stamp} (fits : stamp.Fits) : parse stamp.render = .ok stamp := by
  obtain ⟨least, most, stands⟩ := Day.valid_iff.mp fits.date
  obtain ⟨c, zone, zoned, sign⟩ := head_renderZone stamp.offset
  have unblank : isBlank c = false := by rcases sign with rfl | rfl | rfl <;> rfl
  have halts : Halts (c :: zone) := halts_of_head (by rcases sign with rfl | rfl | rfl <;> rfl)
  have dotless : (c :: zone).head? ≠ some '.' := by rcases sign with rfl | rfl | rfl <;> simp
  have secondLe : stamp.second + stamp.nano / 1000000000 ≤ 60 := by
    have := fits.second
    have := fits.nano
    have := fits.leap
    omega
  have isLeap : (if stamp.second + stamp.nano / 1000000000 = 60 then 1 else 0) =
      stamp.nano / 1000000000 := by
    have := fits.second
    have := fits.nano
    have := fits.leap
    split <;> omega
  have seconds : stamp.second + stamp.nano / 1000000000 - stamp.nano / 1000000000 = stamp.second :=
    Nat.add_sub_cancel _ _
  have nanos : stamp.nano % 1000000000 + stamp.nano / 1000000000 * 1000000000 = stamp.nano := by
    omega
  have year (rest : List Char) : readYear ((renderYear stamp.date.year).toList ++ '-' :: rest) =
    .ok (stamp.date.year, '-' :: rest) := readYear_renderYear least most (halts_of_head rfl)
  have dash (rest : List Char) : readSign '-' ('-' :: rest) = .ok rest := readSign_self rfl rest
  have colon (rest : List Char) : readSign ':' (':' :: rest) = .ok rest := readSign_self rfl rest
  have field {low high value : Nat} (least : low ≤ value) (most : value ≤ high) (two : high < 100)
      (rest : List Char) : readField low high ((paddedDecimal 2 value).toList ++ rest) =
        .ok (value, rest) := readField_paddedDecimal least most (by omega)
  have month := field stands.month_pos stands.month_le (by decide)
  have day := field stands.day_pos (le_trans stands.day_le (monthLength_le _ _)) (by decide)
  have hour := field (Nat.zero_le _) fits.hour (by decide)
  have minute := field (Nat.zero_le _) fits.minute (by decide)
  have second := field (Nat.zero_le _) secondLe (by decide)
  have fraction := readFraction_renderFraction (Nat.mod_lt stamp.nano (by decide)) halts dotless
  have trimmed : trimLeft (c :: zone) = c :: zone :=
    List.dropWhile_cons_of_neg (by rw [unblank]; exact Bool.false_ne_true)
  have offset := readOffset_renderZone fits.day fits.minutes
  rw [zoned] at offset
  have none : trimLeft [] = [] := rfl
  rw [parse, toList_render, zoned]
  simp only [bind, Except.bind, year, dash, colon, month, day, hour, minute, second, fraction,
    trimmed, offset, none, or_true, true_or, if_true, pure, Except.pure, isLeap, seconds, nanos,
    List.isEmpty_nil, Bool.not_true, Bool.false_eq_true, if_false]
  exact check_of_fits fits

/-! ## Stamps that are read -/

theorem readMore_lt {count value result : Nat} {text rest : List Char}
    (read : readMore count value text = .ok (result, rest)) :
    rest.length ≤ text.length ∧ text.length - rest.length ≤ count ∧
      result < (value + 1) * 10 ^ (text.length - rest.length) := by
  induction text generalizing count value with
  | nil =>
      have same : (value, []) = (result, rest) := by
        cases count <;> exact Except.ok.inj read
      cases same
      simp
  | cons c more ih =>
      cases count with
      | zero =>
          cases read
          simp
      | succ count =>
          rw [readMore] at read
          split at read
          · cases read
            simp
          · split at read
            next digit isDigit fits =>
              have small := lt_ten_of_digit isDigit
              obtain ⟨shorter, few, less⟩ := ih read
              have one : (c :: more).length - rest.length = more.length - rest.length + 1 := by
                rw [List.length_cons]
                omega
              refine ⟨Nat.le_succ_of_le shorter, by omega, lt_of_lt_of_le less ?_⟩
              rw [one, Nat.pow_succ, Nat.mul_comm (10 ^ _) 10, ← Nat.mul_assoc]
              exact Nat.mul_le_mul_right _ (by omega)
            next => cases read

theorem readNumber_lt {count value : Nat} {text rest : List Char} (pos : 0 < count)
    (read : readNumber count text = .ok (value, rest)) :
    text.length - rest.length ≤ count ∧ value < 10 ^ (text.length - rest.length) := by
  cases text with
  | nil => cases read
  | cons c more =>
      rw [readNumber] at read
      split at read
      · cases read
      next digit isDigit =>
        have small := lt_ten_of_digit isDigit
        obtain ⟨shorter, few, less⟩ := readMore_lt read
        have one : (c :: more).length - rest.length = more.length - rest.length + 1 := by
          rw [List.length_cons]
          omega
        refine ⟨by omega, lt_of_lt_of_le less ?_⟩
        rw [one, Nat.pow_succ, Nat.mul_comm (10 ^ _) 10]
        exact Nat.mul_le_mul_right _ (by omega)

theorem readFraction_lt {nano : Nat} {text rest : List Char}
    (read : readFraction text = .ok (nano, rest)) : nano < 1000000000 := by
  unfold readFraction at read
  split at read
  next digits =>
    obtain ⟨⟨value, after⟩, number, result⟩ := of_bind_eq_ok read
    obtain ⟨few, less⟩ := readNumber_lt (by decide) number
    cases result
    calc value * 10 ^ (9 - (digits.length - after.length))
        < 10 ^ (digits.length - after.length) * 10 ^ (9 - (digits.length - after.length)) :=
          Nat.mul_lt_mul_of_pos_right less (Nat.pow_pos (by decide))
      _ = 10 ^ 9 := by rw [← Nat.pow_add, Nat.add_sub_of_le few]
  · cases read
    decide

theorem readField_bounds {low high value : Nat} {text rest : List Char}
    (read : readField low high text = .ok (value, rest)) : low ≤ value ∧ value ≤ high := by
  obtain ⟨⟨number, after⟩, -, result⟩ := of_bind_eq_ok read
  simp only at result
  split at result
  · cases result
    assumption
  · cases result

theorem readOffset_minutes {offset : Int} {text rest : List Char}
    (read : readOffset text = .ok (offset, rest)) : offset % 60 = 0 := by
  unfold readOffset at read
  split at read
  · cases read
  split at read
  · cases read
    rfl
  split at read
  · cases read
    rfl
  simp only at read
  split at read
  all_goals try split at read
  all_goals
    obtain ⟨negative, _, read⟩ := of_bind_eq_ok read
    obtain ⟨⟨⟨tens, ones⟩, _⟩, _, read⟩ := of_bind_eq_ok read
    obtain ⟨⟨⟨high, low⟩, _⟩, _, read⟩ := of_bind_eq_ok read
    simp only at read
    split at read
    · cases read
    · cases read
      split <;> omega

theorem check_eq_ok {stamp checked : Stamp} (ok : check stamp = .ok checked) :
    checked = stamp ∧ stamp.date.valid = true ∧ stamp.offset.natAbs < 86400 ∧
      epochRange.1 ≤ stamp.epochSeconds ∧ stamp.epochSeconds ≤ epochRange.2 := by
  rw [check] at ok
  split at ok
  · cases ok
  · split at ok
    · cases ok
    · cases ok
      simp_all

/-- Every stamp that is read fits. -/
theorem fits_of_parse {text : String} {stamp : Stamp} (parsed : parse text = .ok stamp) :
    stamp.Fits := by
  rw [parse] at parsed
  obtain ⟨⟨year, rest⟩, _, parsed⟩ := of_bind_eq_ok parsed
  obtain ⟨_, _, parsed⟩ := of_bind_eq_ok parsed
  obtain ⟨⟨month, rest⟩, _, parsed⟩ := of_bind_eq_ok parsed
  obtain ⟨_, _, parsed⟩ := of_bind_eq_ok parsed
  obtain ⟨⟨day, rest⟩, _, parsed⟩ := of_bind_eq_ok parsed
  simp only at parsed
  split at parsed
  · cases parsed
  split at parsed
  swap
  · cases parsed
  obtain ⟨_, _, parsed⟩ := of_bind_eq_ok parsed
  obtain ⟨⟨hour, rest⟩, readHour, parsed⟩ := of_bind_eq_ok parsed
  obtain ⟨_, _, parsed⟩ := of_bind_eq_ok parsed
  obtain ⟨⟨minute, rest⟩, readMinute, parsed⟩ := of_bind_eq_ok parsed
  obtain ⟨_, _, parsed⟩ := of_bind_eq_ok parsed
  obtain ⟨⟨second, rest⟩, readSecond, parsed⟩ := of_bind_eq_ok parsed
  obtain ⟨⟨fraction, rest⟩, readNano, parsed⟩ := of_bind_eq_ok parsed
  obtain ⟨⟨offset, rest⟩, readZone, parsed⟩ := of_bind_eq_ok parsed
  simp only at parsed
  split at parsed
  · cases parsed
  obtain ⟨rfl, date, zone, earliest, latest⟩ := check_eq_ok parsed
  have hourLe := (readField_bounds readHour).2
  have minuteLe := (readField_bounds readMinute).2
  have secondLe := (readField_bounds readSecond).2
  have nanoLt := readFraction_lt readNano
  have minutes := readOffset_minutes readZone
  refine ⟨date, hourLe, minuteLe, ?_, ?_, ?_, zone, minutes, earliest, latest⟩ <;>
    simp only <;> split <;> omega

/-! ## Universal time -/

theorem epochSeconds_ofEpoch (seconds : Int) (nano : Nat) :
    (ofEpoch seconds nano).epochSeconds = seconds := by
  simp only [epochSeconds, ofEpoch, Day.number_ofNumber]
  omega

/-- A stamp turned to universal time means the same instant. -/
theorem sameInstant_toUniversal (stamp : Stamp) : stamp.sameInstant stamp.toUniversal = true := by
  have nano : stamp.toUniversal.nano = stamp.nano := rfl
  have seconds : stamp.toUniversal.epochSeconds = stamp.epochSeconds := epochSeconds_ofEpoch _ _
  rw [sameInstant, seconds, nano, beq_self_eq_true, beq_self_eq_true, Bool.and_self]

theorem fits_toUniversal {stamp : Stamp} (fits : stamp.Fits) : stamp.toUniversal.Fits := by
  have seconds := epochSeconds_ofEpoch stamp.epochSeconds stamp.nano
  have earliest := fits.earliest
  have latest := fits.latest
  rw [epochRange] at earliest latest
  refine ⟨Day.valid_ofNumber (by omega) (by omega), ?_, ?_, ?_, fits.nano, ?_, ?_, rfl, ?_, ?_⟩
  · show (stamp.epochSeconds % 86400).toNat / 3600 ≤ 23
    omega
  · show (stamp.epochSeconds % 86400).toNat / 60 % 60 ≤ 59
    omega
  · show (stamp.epochSeconds % 86400).toNat % 60 ≤ 59
    omega
  · intro leap
    have second := fits.leap leap
    have minutes := fits.minutes
    show (stamp.epochSeconds % 86400).toNat % 60 = 59
    rw [epochSeconds]
    omega
  · exact Nat.zero_lt_succ _
  · exact seconds ▸ fits.earliest
  · exact seconds ▸ fits.latest

/-- A stamp of the calendar on a clock in universal time. -/
structure Universal (stamp : Stamp) : Prop where
  fits : stamp.Fits
  offset : stamp.offset = 0

/-- A stamp that is in universal time stays as it is. -/
theorem Universal.toUniversal_eq {stamp : Stamp} (universal : stamp.Universal) :
    stamp.toUniversal = stamp := by
  obtain ⟨fits, zero⟩ := universal
  obtain ⟨date, hour, minute, second, nano, offset⟩ := stamp
  have hourLe : hour ≤ 23 := fits.hour
  have minuteLe : minute ≤ 59 := fits.minute
  have secondLe : second ≤ 59 := fits.second
  obtain rfl : offset = 0 := zero
  have number : (date.number * 86400 + hour * 3600 + minute * 60 + second - 0) / 86400 =
      date.number := by omega
  have rest : ((date.number * 86400 + hour * 3600 + minute * 60 + second - 0) % 86400).toNat =
      hour * 3600 + minute * 60 + second := by omega
  simp only [toUniversal, epochSeconds, ofEpoch, number, rest,
    Day.ofNumber_number (Day.valid_iff.mp fits.date).2.2, mk.injEq, true_and, and_true]
  omega

end Scribe.Time.Stamp
