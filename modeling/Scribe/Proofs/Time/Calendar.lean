import Mathlib.Tactic.IntervalCases
import Scribe.Time.Calendar

/-!
# Days and their numbers

Days and numbers are two names of the same thing: every number is the number of a day that
stands in its month, and every such day is the day with its number.  The days of an era of 400
years are taken apart into centuries, spans of four years and years, where all but the last
century and all but the last span have one length.
-/

namespace Scribe.Time

/-! ## Years of an era -/

/-- Days of an era before a year of it. -/
def daysBefore (year : Int) : Int :=
  365 * year + year / 4 - year / 100

/-- The year of an era that a day of it falls in. -/
def yearOfEra (day : Int) : Int :=
  (day - day / 1460 + day / 36524 - day / 146096) / 365

theorem isLeapYear_iff {year : Int} :
    isLeapYear year = true ↔ year % 4 = 0 ∧ (year % 100 ≠ 0 ∨ year % 400 = 0) := by
  simp [isLeapYear]

/-- A place in a year of an era.  Years begin with March, so a leap day is the last one of the
year before the leap year. -/
structure InYear (year dayOfYear : Int) : Prop where
  nonneg : 0 ≤ year
  lt : year < 400
  first : 0 ≤ dayOfYear
  last : dayOfYear ≤ 365
  leap : dayOfYear = 365 → (year + 1) % 4 = 0 ∧ ((year + 1) % 100 ≠ 0 ∨ (year + 1) % 400 = 0)

/-- A year of an era in centuries, spans of four years and years. -/
theorem daysBefore_eq {century span year : Int} (spans : 0 ≤ span ∧ span < 25)
    (years : 0 ≤ year ∧ year < 4) :
    daysBefore (100 * century + 4 * span + year) = 36524 * century + 1461 * span + 365 * year := by
  have quarters : (100 * century + 4 * span + year) / 4 = 25 * century + span := by omega
  have hundreds : (100 * century + 4 * span + year) / 100 = century := by omega
  rw [daysBefore, quarters, hundreds]
  omega

theorem yearOfEra_daysBefore {year dayOfYear : Int} (place : InYear year dayOfYear) :
    yearOfEra (daysBefore year + dayOfYear) = year := by
  obtain ⟨nonneg, lt, first, last, leap⟩ := place
  obtain ⟨century, span, rest, rfl, centuries, spans, years⟩ : ∃ century span rest,
      year = 100 * century + 4 * span + rest ∧ (0 ≤ century ∧ century < 4) ∧
        (0 ≤ span ∧ span < 25) ∧ (0 ≤ rest ∧ rest < 4) :=
    ⟨year / 100, year % 100 / 4, year % 4, by omega, by omega, by omega, by omega⟩
  rw [daysBefore_eq spans years, yearOfEra]
  have leap : dayOfYear = 365 → rest = 3 ∧ (span < 24 ∨ century = 3) := by omega
  have inSpan : 365 * rest + dayOfYear ≤ 1460 := by omega
  -- The last day of the era makes each quotient one more.
  by_cases final : century = 3 ∧ span = 24 ∧ 365 * rest + dayOfYear = 1460
  · obtain ⟨rfl, rfl, final⟩ := final
    omega
  · have centuriesOf :
        (36524 * century + 1461 * span + 365 * rest + dayOfYear) / 36524 = century := by omega
    have eras : (36524 * century + 1461 * span + 365 * rest + dayOfYear) / 146096 = 0 := by omega
    have spansOf : (36524 * century + 1461 * span + 365 * rest + dayOfYear) / 1460 =
        25 * century + span + (24 * century + span + 365 * rest + dayOfYear) / 1460 := by omega
    rw [centuriesOf, eras, spansOf]
    omega

theorem exists_inYear {day : Int} (first : 0 ≤ day) (last : day < 146097) :
    ∃ year dayOfYear, InYear year dayOfYear ∧ day = daysBefore year + dayOfYear := by
  obtain ⟨century, rest, rfl, centuries, nonneg, short⟩ : ∃ century rest,
      day = 36524 * century + rest ∧ (0 ≤ century ∧ century < 4) ∧ 0 ≤ rest ∧
        (rest < 36524 ∨ century = 3 ∧ rest = 36524) := by
    by_cases final : day = 146096
    · exact ⟨3, 36524, by omega, by omega, by omega, by omega⟩
    · exact ⟨day / 36524, day % 36524, by omega, by omega, by omega, by omega⟩
  obtain ⟨span, rest, rfl, spans, nonneg, within⟩ : ∃ span left,
      rest = 1461 * span + left ∧ (0 ≤ span ∧ span < 25) ∧ 0 ≤ left ∧ left < 1461 :=
    ⟨rest / 1461, rest % 1461, by omega, by omega, by omega, by omega⟩
  obtain ⟨year, rest, rfl, years, nonneg, within⟩ : ∃ year left,
      rest = 365 * year + left ∧ (0 ≤ year ∧ year < 4) ∧ 0 ≤ left ∧
        (left < 365 ∨ year = 3 ∧ left = 365) := by
    by_cases final : rest = 1460
    · exact ⟨3, 365, by omega, by omega, by omega, by omega⟩
    · exact ⟨rest / 365, rest % 365, by omega, by omega, by omega, by omega⟩
  refine ⟨100 * century + 4 * span + year, rest, ⟨by omega, by omega, nonneg, by omega, ?_⟩, ?_⟩
  · omega
  · rw [daysBefore_eq spans years]
    omega

/-! ## Months of a year -/

/-- The month of the calendar that a month counted from March is. -/
def monthOfYear (month : Int) : Nat :=
  (if month < 10 then month + 3 else month - 9).toNat

/-- A place in a month, where months are counted from March. -/
structure InMonth (leap : Bool) (month day : Int) : Prop where
  nonneg : 0 ≤ month
  le : month ≤ 11
  first : 1 ≤ day
  last : day ≤ monthLength (if leap then 0 else 1) (monthOfYear month)

theorem InMonth.month {leap : Bool} {month day : Int} (place : InMonth leap month day) :
    (5 * ((153 * month + 2) / 5 + day - 1) + 2) / 153 = month ∧
      0 ≤ (153 * month + 2) / 5 + day - 1 ∧
      (153 * month + 2) / 5 + day - 1 ≤ (if leap then 365 else 364) := by
  obtain ⟨nonneg, le, first, last⟩ := place
  interval_cases month <;> cases leap <;>
    simp [monthLength, monthOfYear, isLeapYear] at last ⊢ <;> omega

theorem inMonth_of {leap : Bool} {dayOfYear : Int} (first : 0 ≤ dayOfYear)
    (last : dayOfYear ≤ (if leap then 365 else 364)) :
    InMonth leap ((5 * dayOfYear + 2) / 153)
      (dayOfYear - (153 * ((5 * dayOfYear + 2) / 153) + 2) / 5 + 1) := by
  obtain ⟨month, same⟩ : ∃ month, (5 * dayOfYear + 2) / 153 = month := ⟨_, rfl⟩
  rw [same]
  have late : dayOfYear ≤ 365 := by split at last <;> omega
  have range : 0 ≤ month ∧ month ≤ 11 := by omega
  refine ⟨range.1, range.2, by omega, ?_⟩
  obtain ⟨low, high⟩ := range
  interval_cases month <;> cases leap <;>
    simp [monthLength, monthOfYear, isLeapYear] at last ⊢ <;> omega

/-! ## Days -/

/-- The day of an era, a year of it and a place in a month of that year. -/
def Day.ofParts (era year month day : Int) : Day :=
  ⟨year + era * 400 + (if month < 10 then 0 else 1), monthOfYear month, day.toNat⟩

theorem daysBefore_lt {year dayOfYear : Int} (place : InYear year dayOfYear) :
    0 ≤ daysBefore year + dayOfYear ∧ daysBefore year + dayOfYear < 146097 := by
  obtain ⟨nonneg, lt, first, last, -⟩ := place
  rw [daysBefore]
  omega

theorem Day.ofNumber_eq (era : Int) {year dayOfYear : Int} (place : InYear year dayOfYear) :
    Day.ofNumber (era * 146097 + (daysBefore year + dayOfYear) - 719468) =
      Day.ofParts era year ((5 * dayOfYear + 2) / 153)
        (dayOfYear - (153 * ((5 * dayOfYear + 2) / 153) + 2) / 5 + 1) := by
  obtain ⟨first, last⟩ := daysBefore_lt place
  have eraOf : (era * 146097 + (daysBefore year + dayOfYear) - 719468 + 719468) / 146097 = era := by
    omega
  have dayOf : (era * 146097 + (daysBefore year + dayOfYear) - 719468 + 719468) % 146097 =
      daysBefore year + dayOfYear := by
    omega
  have yearOf := yearOfEra_daysBefore place
  rw [yearOfEra] at yearOf
  have rest : daysBefore year + dayOfYear - (365 * year + year / 4 - year / 100) = dayOfYear := by
    rw [daysBefore]
    omega
  simp only [Day.ofNumber, eraOf, dayOf, yearOf, rest, Day.ofParts, monthOfYear]

theorem Day.number_ofParts (era : Int) {leap : Bool} {year month day : Int} (nonneg : 0 ≤ year)
    (lt : year < 400) (place : InMonth leap month day) :
    (Day.ofParts era year month day).number =
      era * 146097 + (daysBefore year + ((153 * month + 2) / 5 + day - 1)) - 719468 := by
  obtain ⟨early, late, first, -⟩ := place
  have dayOf : (day.toNat : Int) = day := Int.toNat_of_nonneg (by omega)
  simp only [Day.ofParts, Day.number, monthOfYear, daysBefore, dayOf]
  by_cases before : month < 10
  · have monthOf : ((month + 3).toNat : Int) = month + 3 := Int.toNat_of_nonneg (by omega)
    have march : ¬(month + 3).toNat ≤ 2 := by omega
    simp only [before, march, if_true, if_false, monthOf]
    omega
  · have monthOf : ((month - 9).toNat : Int) = month - 9 := Int.toNat_of_nonneg (by omega)
    have january : (month - 9).toNat ≤ 2 := by omega
    simp only [before, january, if_true, if_false, monthOf]
    omega

/-- A day that stands in its month. -/
structure Day.Stands (day : Day) : Prop where
  month_pos : 1 ≤ day.month
  month_le : day.month ≤ 12
  day_pos : 1 ≤ day.day
  day_le : day.day ≤ monthLength day.year day.month

theorem Day.valid_iff {day : Day} :
    day.valid = true ↔ yearRange.1 ≤ day.year ∧ day.year ≤ yearRange.2 ∧ day.Stands := by
  simp only [Day.valid, Bool.and_eq_true, decide_eq_true_eq, and_assoc]
  constructor
  · rintro ⟨first, last, month_pos, month_le, day_pos, day_le⟩
    exact ⟨first, last, month_pos, month_le, day_pos, day_le⟩
  · rintro ⟨first, last, month_pos, month_le, day_pos, day_le⟩
    exact ⟨first, last, month_pos, month_le, day_pos, day_le⟩

theorem monthLength_le (year : Int) (month : Nat) : monthLength year month ≤ 31 := by
  simp only [monthLength]
  repeat' split
  all_goals decide

/-- Only the length of February hangs on the year. -/
theorem monthLength_eq {year other : Int} {month : Nat}
    (same : month = 2 → isLeapYear year = isLeapYear other) :
    monthLength year month = monthLength other month := by
  by_cases february : month = 2
  · simp only [monthLength, same february]
  · simp only [monthLength, february, if_false]

/-- A year with or without a leap day. -/
theorem isLeapYear_ite (leap : Bool) : isLeapYear (if leap then 0 else 1) = leap := by
  cases leap <;> rfl

theorem isLeapYear_era (era year : Int) : isLeapYear (year + era * 400) = isLeapYear year := by
  rw [Bool.eq_iff_iff, isLeapYear_iff, isLeapYear_iff]
  omega

theorem Day.stands_ofParts (era : Int) {year month day : Int}
    (place : InMonth (isLeapYear (year + 1)) month day) :
    (Day.ofParts era year month day).Stands := by
  obtain ⟨nonneg, le, first, last⟩ := place
  refine ⟨?_, ?_, ?_, ?_⟩
  · simp only [Day.ofParts, monthOfYear]
    omega
  · simp only [Day.ofParts, monthOfYear]
    omega
  · simp only [Day.ofParts]
    omega
  · have same : monthLength (year + era * 400 + (if month < 10 then 0 else 1)) (monthOfYear month) =
        monthLength (if isLeapYear (year + 1) then 0 else 1) (monthOfYear month) := by
      refine monthLength_eq fun february => ?_
      have late : ¬month < 10 := by
        intro early
        simp only [monthOfYear, early, if_true] at february
        omega
      rw [isLeapYear_ite, if_neg late, ← isLeapYear_era era (year + 1)]
      congr 1
      omega
    show day.toNat ≤
      monthLength (year + era * 400 + (if month < 10 then 0 else 1)) (monthOfYear month)
    rw [same]
    omega

theorem Day.exists_parts {day : Day} (stands : day.Stands) :
    ∃ era year month place, 0 ≤ year ∧ year < 400 ∧
      InMonth (isLeapYear (year + 1)) month place ∧ day = Day.ofParts era year month place := by
  obtain ⟨year, month, place⟩ := day
  have month_pos : 1 ≤ month := stands.month_pos
  have month_le : month ≤ 12 := stands.month_le
  -- The year and the month counted from March.
  obtain ⟨shift, months, early, late, leap, monthOf, yearOf⟩ : ∃ shift months : Int,
      0 ≤ months ∧ months ≤ 11 ∧ (month = 2 → year = shift + 1) ∧ monthOfYear months = month ∧
        year = shift + (if months < 10 then 0 else 1) := by
    by_cases winter : month ≤ 2
    · exact ⟨year - 1, month + 9, by omega, by omega, by omega, by rw [monthOfYear]; omega,
        by omega⟩
    · exact ⟨year, month - 3, by omega, by omega, by omega, by rw [monthOfYear]; omega,
        by omega⟩
  refine ⟨shift / 400, shift % 400, months, place, by omega, by omega,
    ⟨early, late, by exact_mod_cast stands.day_pos, ?_⟩, ?_⟩
  · have same : monthLength (if isLeapYear (shift % 400 + 1) then 0 else 1) month =
        monthLength year month := by
      refine monthLength_eq fun february => ?_
      rw [isLeapYear_ite, ← isLeapYear_era (shift / 400), leap february]
      congr 1
      omega
    rw [monthOf, same]
    exact_mod_cast stands.day_le
  · simp only [Day.ofParts, monthOf, Int.toNat_natCast, Day.mk.injEq, and_true]
    omega

/-- A place in a month is a place in its year. -/
theorem InMonth.inYear {year month day : Int} (nonneg : 0 ≤ year) (lt : year < 400)
    (place : InMonth (isLeapYear (year + 1)) month day) :
    InYear year ((153 * month + 2) / 5 + day - 1) := by
  obtain ⟨-, first, last⟩ := place.month
  refine ⟨nonneg, lt, first, ?_, fun final => ?_⟩
  · split at last <;> omega
  · rw [final] at last
    split at last
    · exact isLeapYear_iff.mp ‹_›
    · omega

/-- A day is the day with its number. -/
theorem Day.ofNumber_number {day : Day} (stands : day.Stands) : Day.ofNumber day.number = day := by
  obtain ⟨era, year, month, place, nonneg, lt, within, rfl⟩ := Day.exists_parts stands
  have monthOf := within.month.1
  rw [Day.number_ofParts era nonneg lt within, Day.ofNumber_eq era (within.inYear nonneg lt),
    monthOf]
  congr 1
  omega

theorem Day.exists_ofNumber (number : Int) :
    ∃ era year month place, 0 ≤ year ∧ year < 400 ∧
      InMonth (isLeapYear (year + 1)) month place ∧
      Day.ofNumber number = Day.ofParts era year month place ∧
      (Day.ofParts era year month place).number = number := by
  obtain ⟨era, day, rfl, first, last⟩ : ∃ era day, number = era * 146097 + day - 719468 ∧
      0 ≤ day ∧ day < 146097 :=
    ⟨(number + 719468) / 146097, (number + 719468) % 146097, by omega, by omega, by omega⟩
  obtain ⟨year, dayOfYear, inYear, rfl⟩ := exists_inYear first last
  have within : dayOfYear ≤ (if isLeapYear (year + 1) then 365 else 364) := by
    have late := inYear.last
    have leap := inYear.leap
    rw [← isLeapYear_iff] at leap
    split
    · exact late
    · have : dayOfYear ≠ 365 := fun final => absurd (leap final) ‹_›
      omega
  have place := inMonth_of inYear.first within
  refine ⟨era, year, _, _, inYear.nonneg, inYear.lt, place, Day.ofNumber_eq era inYear, ?_⟩
  rw [Day.number_ofParts era inYear.nonneg inYear.lt place]
  omega

/-- Every number is that of the day with the number. -/
theorem Day.number_ofNumber (number : Int) : (Day.ofNumber number).number = number := by
  obtain ⟨era, year, month, place, -, -, -, same, numberOf⟩ := Day.exists_ofNumber number
  rw [same, numberOf]

theorem Day.stands_ofNumber (number : Int) : (Day.ofNumber number).Stands := by
  obtain ⟨era, year, month, place, -, -, within, same, -⟩ := Day.exists_ofNumber number
  rw [same]
  exact Day.stands_ofParts era within

theorem InYear.lt_daysBefore {year other dayOfYear : Int} (place : InYear year dayOfYear)
    (earlier : year < other) (within : other < 400) :
    daysBefore year + dayOfYear < daysBefore other := by
  obtain ⟨nonneg, -, first, last, leap⟩ := place
  rw [daysBefore, daysBefore]
  by_cases final : dayOfYear = 365
  · obtain ⟨quarter, century⟩ := leap final
    have quarters : (year + 1) / 4 = year / 4 + 1 := by omega
    have hundreds : (year + 1) / 100 = year / 100 := by omega
    by_cases next : other = year + 1 <;> omega
  · by_cases next : other = year + 1 <;> omega

/-- Days are numbered in the order of their years. -/
theorem Day.number_lt {day other : Day} (stands : day.Stands) (others : other.Stands)
    (earlier : day.year < other.year) : day.number < other.number := by
  obtain ⟨era, year, month, place, nonneg, lt, within, rfl⟩ := Day.exists_parts stands
  obtain ⟨era', year', month', place', nonneg', lt', within', rfl⟩ := Day.exists_parts others
  have inYear := within.inYear nonneg lt
  have inYear' := within'.inYear nonneg' lt'
  rw [Day.number_ofParts era nonneg lt within, Day.number_ofParts era' nonneg' lt' within']
  simp only [Day.ofParts] at earlier
  rcases Int.lt_trichotomy era era' with before | rfl | behind
  · have := daysBefore_lt inYear
    have := daysBefore_lt inYear'
    omega
  · rcases Int.lt_trichotomy year year' with before | rfl | behind
    · have := inYear.lt_daysBefore before lt'
      have := inYear'.first
      omega
    · -- In one year counted from March the later day is one of January or February.
      have early : month < 10 ∧ 10 ≤ month' := by split at earlier <;> split at earlier <;> omega
      have length : place ≤ 31 := le_trans within.last (by exact_mod_cast monthLength_le _ _)
      have := within'.first
      omega
    · split at earlier <;> split at earlier <;> omega
  · split at earlier <;> split at earlier <;> omega

/-- A day is valid if its number is one between those of the first and the last day. -/
theorem Day.valid_ofNumber {number : Int} (first : (Day.mk yearRange.1 1 1).number ≤ number)
    (last : number ≤ (Day.mk yearRange.2 12 31).number) : (Day.ofNumber number).valid = true := by
  have stands := Day.stands_ofNumber number
  have firstStands : (Day.mk yearRange.1 1 1).Stands :=
    ⟨by decide, by decide, by decide, by decide⟩
  have lastStands : (Day.mk yearRange.2 12 31).Stands :=
    ⟨by decide, by decide, by decide, by decide⟩
  have numberOf := Day.number_ofNumber number
  refine Day.valid_iff.mpr ⟨?_, ?_, stands⟩
  · by_contra before
    have := Day.number_lt stands firstStands (Int.not_le.mp before)
    omega
  · by_contra behind
    have := Day.number_lt lastStands stands (Int.not_le.mp behind)
    omega

end Scribe.Time
