import FeatureQuery.Time.Calendar

/-!
# The days of the calendar

Every day number is the number of one date. Of an era of 400 years, which start in March, a day lies in one of four
centuries, in one of 25 cycles of four years, in one of four years, and is one of the days of this year. Only the last
year of a cycle has a day 365, the leap day, and only the last century has one in its last cycle.

## Main results

* `exists_inEra`, `InEra.yearOfEra_eq`: the parts of a day of an era, and the year that they make.
* `Date.isValid_ofDayNumber`: the date of a day exists.
* `Date.dayNumber_ofDayNumber`: its number is the day.
-/

namespace FeatureQuery.Time

/-! ### Eras -/

/-- A day of an era is the given day of a year of a cycle of a century, all counted from zero. -/
structure InEra (dayOfEra century cycle year day : Int) : Prop where
  century_mem : 0 ≤ century ∧ century ≤ 3
  cycle_mem : 0 ≤ cycle ∧ cycle ≤ 24
  year_mem : 0 ≤ year ∧ year ≤ 3
  day_mem : 0 ≤ day ∧ day ≤ 365
  leap : day = 365 → year = 3 ∧ (cycle = 24 → century = 3)
  eq : dayOfEra = 36524 * century + 1461 * cycle + 365 * year + day

/-- Every day of an era has its parts. -/
theorem exists_inEra {dayOfEra : Int} (h : 0 ≤ dayOfEra ∧ dayOfEra ≤ 146096) :
    ∃ century cycle year day, InEra dayOfEra century cycle year day := by
  -- The last century has one more day than the others, and the last year of a cycle may have one more.
  obtain ⟨century, hcentury, hrest⟩ : ∃ century, (0 ≤ century ∧ century ≤ 3) ∧ 0 ≤ dayOfEra - 36524 * century
      ∧ (dayOfEra - 36524 * century ≤ 36523 ∨ century = 3 ∧ dayOfEra - 36524 * century = 36524) := by
    by_cases hlast : dayOfEra = 146096
    · exact ⟨3, by omega⟩
    · exact ⟨dayOfEra / 36524, by omega⟩
  generalize hcycles : dayOfEra - 36524 * century = rest at hrest
  obtain ⟨year, hyear, hday⟩ : ∃ year, (0 ≤ year ∧ year ≤ 3) ∧ 0 ≤ rest % 1461 - 365 * year
      ∧ (rest % 1461 - 365 * year ≤ 364 ∨ year = 3 ∧ rest % 1461 - 365 * year = 365) := by
    by_cases hlast : rest % 1461 = 1460
    · exact ⟨3, by omega⟩
    · exact ⟨rest % 1461 / 365, by omega⟩
  exact ⟨century, rest / 1461, year, rest % 1461 - 365 * year, hcentury, by omega, hyear, by omega, by omega, by omega⟩

section Era

variable {dayOfEra century cycle year day : Int} (h : InEra dayOfEra century cycle year day)

include h

/-- The year of the era. Taking off a day for every 1460 makes all years 365 days long, up to a day that each century
gives back. -/
theorem InEra.yearOfEra_eq :
    (dayOfEra - dayOfEra / 1460 + dayOfEra / 36524 - dayOfEra / 146096) / 365
      = 100 * century + 4 * cycle + year := by
  obtain ⟨hcentury, hcycle, hyear, hday, hleap, heq⟩ := h
  by_cases hend : dayOfEra = 146096
  · have hparts : century = 3 ∧ cycle = 24 ∧ year = 3 := by omega
    obtain ⟨rfl, rfl, rfl⟩ := hparts
    subst hend
    decide
  · have hcenturies : dayOfEra / 36524 = century := by omega
    have hera : dayOfEra / 146096 = 0 := by omega
    rw [hcenturies, hera]
    by_cases hcarry : 24 * century + cycle + 365 * year + day < 1460
    · have hyears : dayOfEra / 1460 = 25 * century + cycle := by omega
      omega
    · have hyears : dayOfEra / 1460 = 25 * century + cycle + 1 := by omega
      omega

/-- The day of the year. -/
theorem InEra.dayOfYear_eq {yearOfEra : Int} (hyears : yearOfEra = 100 * century + 4 * cycle + year) :
    dayOfEra - (365 * yearOfEra + yearOfEra / 4 - yearOfEra / 100) = day := by
  obtain ⟨hcentury, hcycle, hyear, hday, hleap, heq⟩ := h
  have hquarter : yearOfEra / 4 = 25 * century + cycle := by omega
  have hhundredth : yearOfEra / 100 = century := by omega
  omega

/-- A year with a leap day ends in a leap year. -/
theorem InEra.isLeapYear (hlast : day = 365) (era : Int) :
    isLeapYear (400 * era + (100 * century + 4 * cycle + year) + 1) = true := by
  obtain ⟨rfl, hcentury⟩ := h.leap hlast
  have hcycle := h.cycle_mem
  simp only [Time.isLeapYear, Bool.and_eq_true, Bool.or_eq_true, beq_iff_eq, bne_iff_ne]
  omega

end Era

namespace Date

/-! ### Months -/

/-- The date of a day of a year that starts in March. -/
def ofDayOfYear (year day : Int) : Date :=
  let month := (5 * day + 2) / 153
  let dayOfMonth := day - (153 * month + 2) / 5 + 1
  if month < 10 then ⟨year, (month + 3).toNat, dayOfMonth.toNat⟩
  else ⟨year + 1, (month - 9).toNat, dayOfMonth.toNat⟩

/-- The months from March to January are as long as they are taken to be. -/
theorem daysInMonth_eq (year : Int) {month : Int} (h : 0 ≤ month ∧ month ≤ 10) :
    (daysInMonth year (if month < 10 then month + 3 else month - 9).toNat : Int)
      = (153 * (month + 1) + 2) / 5 - (153 * month + 2) / 5 := by
  have hcases : month = 0 ∨ month = 1 ∨ month = 2 ∨ month = 3 ∨ month = 4 ∨ month = 5 ∨ month = 6 ∨ month = 7
      ∨ month = 8 ∨ month = 9 ∨ month = 10 := by omega
  rcases hcases with rfl | rfl | rfl | rfl | rfl | rfl | rfl | rfl | rfl | rfl | rfl
  all_goals rfl

/-- A date exists if its month does and has the day. -/
theorem isValid_iff {date : Date} : date.isValid = true ↔ 1 ≤ date.month ∧ date.month ≤ 12 ∧ 1 ≤ date.day
    ∧ date.day ≤ daysInMonth date.year date.month := by
  simp [isValid, and_assoc]

/-- No month has more than 31 days. -/
theorem daysInMonth_le (year : Int) (month : Nat) : daysInMonth year month ≤ 31 := by
  unfold daysInMonth
  split
  · split <;> decide
  all_goals decide

section DayOfYear

variable {year day : Int} (hday : 0 ≤ day ∧ day ≤ 365)

include hday

theorem dayNumber_ofDayOfYear : (ofDayOfYear year day).dayNumber
    = year / 400 * 146097 + (year % 400 * 365 + year % 400 / 4 - year % 400 / 100 + day) - 719468 := by
  simp only [ofDayOfYear]
  generalize hmonth : (5 * day + 2) / 153 = month
  split
  · simp only [dayNumber]
    rw [if_neg (by omega), if_neg (by omega)]
    omega
  · simp only [dayNumber]
    rw [if_pos (by omega), if_pos (by omega), Int.add_sub_cancel]
    omega

theorem isValid_ofDayOfYear (hleap : day = 365 → isLeapYear (year + 1) = true) :
    (ofDayOfYear year day).isValid = true := by
  rw [isValid_iff]
  simp only [ofDayOfYear]
  generalize hmonth : (5 * day + 2) / 153 = month
  by_cases hfebruary : month = 11
  · subst hfebruary
    rw [if_neg (by decide)]
    dsimp only
    refine ⟨by decide, by decide, by omega, ?_⟩
    by_cases hlast : day = 365
    · rw [show daysInMonth (year + 1) (11 - 9 : Int).toNat = 29 from if_pos (hleap hlast)]
      omega
    · have hdays : 28 ≤ daysInMonth (year + 1) (11 - 9 : Int).toNat := by
        show 28 ≤ if isLeapYear (year + 1) then 29 else 28
        split <;> decide
      omega
  · have hrange : 0 ≤ month ∧ month ≤ 10 := by omega
    split
    · next hlt =>
        have hdays := daysInMonth_eq year hrange
        rw [if_pos hlt] at hdays
        dsimp only
        exact ⟨by omega, by omega, by omega, by omega⟩
    · next hlt =>
        have hdays := daysInMonth_eq (year + 1) hrange
        rw [if_neg hlt] at hdays
        dsimp only
        exact ⟨by omega, by omega, by omega, by omega⟩

end DayOfYear

/-! ### Day numbers -/

/-- The date of a day number is that of a day of a year. -/
theorem exists_ofDayNumber_eq (days : Int) : ∃ year day, ofDayNumber days = ofDayOfYear year day
    ∧ (0 ≤ day ∧ day ≤ 365) ∧ (day = 365 → isLeapYear (year + 1) = true)
    ∧ year / 400 * 146097 + (year % 400 * 365 + year % 400 / 4 - year % 400 / 100 + day) - 719468 = days := by
  have hdayOfEra : 0 ≤ (days + 719468) % 146097 ∧ (days + 719468) % 146097 ≤ 146096 := by omega
  obtain ⟨century, cycle, year, day, h⟩ := exists_inEra hdayOfEra
  refine ⟨400 * ((days + 719468) / 146097) + (100 * century + 4 * cycle + year), day, ?_, h.day_mem,
    fun hlast => h.isLeapYear hlast _, ?_⟩
  · have hdayOfYear := h.dayOfYear_eq h.yearOfEra_eq
    have hrange := h.day_mem
    rw [← h.yearOfEra_eq]
    simp only [ofDayNumber, ofDayOfYear, hdayOfYear]
    generalize (_ : Int) / 365 = yearOfEra
    split
    · rw [if_neg (by omega), Int.add_comm, Int.mul_comm]
    · rw [if_pos (by omega), Int.add_comm yearOfEra, Int.mul_comm _ 400]
  · have hdayOfYear := h.dayOfYear_eq rfl
    obtain ⟨hcentury, hcycle, hyear, -, -, -⟩ := h
    generalize hera : (days + 719468) / 146097 = era
    have hyearOfEra : (400 * era + (100 * century + 4 * cycle + year)) % 400 = 100 * century + 4 * cycle + year := by
      omega
    have hyears : (400 * era + (100 * century + 4 * cycle + year)) / 400 = era := by
      omega
    rw [hyearOfEra, hyears]
    omega

/-- The date of a day exists. -/
theorem isValid_ofDayNumber (days : Int) : (ofDayNumber days).isValid = true := by
  obtain ⟨year, day, heq, hday, hleap, -⟩ := exists_ofDayNumber_eq days
  rw [heq]
  exact isValid_ofDayOfYear hday hleap

/-- **Days.** The number of the date of a day is the day. -/
theorem dayNumber_ofDayNumber (days : Int) : (ofDayNumber days).dayNumber = days := by
  obtain ⟨year, day, heq, hday, -, hnumber⟩ := exists_ofDayNumber_eq days
  rw [heq, dayNumber_ofDayOfYear hday, hnumber]

end Date

end FeatureQuery.Time
