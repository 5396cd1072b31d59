import Gallery.Time.Date
import Mathlib.Algebra.Order.SuccPred
import Mathlib.Order.Monotone.Basic
import Mathlib.Tactic.IntervalCases

-- The date of a day exists in the calendar, and is the date of this day and of no other. In an era
-- of 400 years, years begin in March, and all that has to be found is the year of a day: the days
-- of the era without its leap days, divided by 365.

namespace Gallery.Date

-- The days of an era before the first of March of one of its years.
def daysBefore (year : Int) : Int := 365 * year + year / 4 - year / 100 + year / 400

-- The days of an era before one of them, without leap days.
def leapless (day : Int) : Int := day - day / 1460 + day / 36524 - day / 146096

theorem leapless_mono {day later : Int} (h : day ≤ later) : leapless day ≤ leapless later := by
  refine monotone_int_of_le_succ (fun d => ?_) h
  -- 146096 days are four times 36524, so both quotients grow together
  have hquarters : ∀ n : Int, n / 146096 = n / 36524 / 4 := by
    intro n
    omega
  simp only [leapless, hquarters]
  omega

-- At both ends of a year the days without leap days fall into it.
theorem le_leapless_daysBefore :
    ∀ year < 400, 365 * ((year : Nat) : Int) ≤ leapless (daysBefore year) := by
  decide +kernel

theorem leapless_daysBefore_lt :
    ∀ year < 400, leapless (daysBefore (year + 1 : Nat) - 1) < 365 * ((year + 1 : Nat) : Int) := by
  decide +kernel

variable {day : Int}

theorem yearOfEra_bounds (hday : 0 ≤ day) (hlast : day < 146097) :
    0 ≤ leapless day / 365 ∧ leapless day / 365 < 400 := by
  simp only [leapless]
  omega

-- The day is one of the days of its year.
theorem daysBefore_yearOfEra (hday : 0 ≤ day) (hlast : day < 146097) :
    daysBefore (leapless day / 365) ≤ day ∧ day < daysBefore (leapless day / 365 + 1) := by
  obtain ⟨hyear, hyears⟩ := yearOfEra_bounds hday hlast
  obtain ⟨year, heq⟩ := Int.eq_ofNat_of_zero_le hyear
  rw [heq]
  constructor
  · by_contra hbefore
    cases year with
    | zero => exact hbefore hday
    | succ year =>
        have hle : leapless day ≤ leapless (daysBefore (year + 1 : Nat) - 1) :=
          leapless_mono (by omega)
        have hlt := leapless_daysBefore_lt year (by omega)
        omega
  · by_contra hafter
    by_cases hend : year + 1 = 400
    · have hera : daysBefore ((year : Int) + 1) = 146097 := by
        rw [show (year : Int) + 1 = 400 by omega]
        rfl
      omega
    · have hle : leapless (daysBefore (year + 1 : Nat)) ≤ leapless day :=
        leapless_mono (by simpa using hafter)
      have hge := le_leapless_daysBefore (year + 1) (by omega)
      omega

theorem isLeapYear_iff (year : Int) :
    isLeapYear year = true ↔ year % 4 = 0 ∧ (year % 100 ≠ 0 ∨ year % 400 = 0) := by
  simp [isLeapYear]

-- A year that begins in March has a leap day if the next year of the calendar has.
theorem daysBefore_succ (year : Int) :
    daysBefore (year + 1) = daysBefore year + if isLeapYear (year + 1) then 366 else 365 := by
  simp only [daysBefore, isLeapYear_iff]
  split <;> omega

theorem isLeapYear_add_eras (year era : Int) :
    isLeapYear (year + era * 400) = isLeapYear year := by
  rw [Bool.eq_iff_iff, isLeapYear_iff, isLeapYear_iff]
  omega

-- Where a day stands: its era, the year of the era, and the day of this year.
structure StandsAt (day era year : Int) (dayOfYear : Nat) : Prop where
  shifted : day + eraOffset = era * 146097 + daysBefore year + dayOfYear
  first : 0 ≤ year
  last : year < 400
  short : dayOfYear < if isLeapYear (year + 1) then 366 else 365

-- The month of a day of the year, counted from March.
def march (dayOfYear : Nat) : Nat := (5 * dayOfYear + 2) / 153

-- How a date is made when it is known where its day stands.
def standing (era year : Int) (dayOfYear : Nat) : Date :=
  let month := if march dayOfYear < 10 then march dayOfYear + 3 else march dayOfYear - 9
  { year := year + era * 400 + if month ≤ 2 then 1 else 0
    month
    day := dayOfYear - (153 * march dayOfYear + 2) / 5 + 1 }

theorem ofDay_eq (day : Int) :
    ∃ era year dayOfYear, StandsAt day era year dayOfYear ∧
      ofDay day = standing era year dayOfYear := by
  have hday : 0 ≤ (day + eraOffset) % 146097 := Int.emod_nonneg _ (by decide)
  have hlast : (day + eraOffset) % 146097 < 146097 := Int.emod_lt_of_pos _ (by decide)
  have hshifted := Int.mul_ediv_add_emod (day + eraOffset) 146097
  have hofDay : ofDay day = standing ((day + eraOffset) / 146097)
      (leapless ((day + eraOffset) % 146097) / 365)
      ((day + eraOffset) % 146097 - (365 * (leapless ((day + eraOffset) % 146097) / 365) +
        leapless ((day + eraOffset) % 146097) / 365 / 4 -
        leapless ((day + eraOffset) % 146097) / 365 / 100)).toNat := rfl
  obtain ⟨hfirst, hyears⟩ := yearOfEra_bounds hday hlast
  obtain ⟨hfrom, hto⟩ := daysBefore_yearOfEra hday hlast
  generalize (day + eraOffset) % 146097 = dayOfEra at *
  generalize leapless dayOfEra / 365 = year at *
  have hera : daysBefore year = 365 * year + year / 4 - year / 100 := by
    rw [daysBefore]
    omega
  rw [daysBefore_succ] at hto
  rw [← hera] at hofDay
  refine ⟨_, year, _, ⟨?_, hfirst, hyears, ?_⟩, hofDay⟩
  · omega
  · split at hto
    · rename_i hleap
      rw [if_pos hleap]
      omega
    · rename_i hcommon
      rw [if_neg hcommon]
      omega

variable {era year : Int} {dayOfYear : Nat}

theorem StandsAt.march_le (h : StandsAt day era year dayOfYear) : march dayOfYear ≤ 11 := by
  have hshort := h.short
  unfold march
  split at hshort <;> omega

-- The months from March on have the days between their first and the first of the next.
theorem StandsAt.day_le (h : StandsAt day era year dayOfYear) :
    (standing era year dayOfYear).day ≤
      daysInMonth (standing era year dayOfYear).year (standing era year dayOfYear).month := by
  have hshort := h.short
  have hmarch := h.march_le
  have hquotient : march dayOfYear = (5 * dayOfYear + 2) / 153 := rfl
  by_cases hlast : march dayOfYear = 11
  · -- February, which has the leap day
    have hleap : isLeapYear (year + era * 400 + 1) = isLeapYear (year + 1) := by
      rw [Int.add_right_comm, isLeapYear_add_eras]
    simp only [standing, hlast, daysInMonth, Nat.reduceLT, Nat.reduceSub, Nat.reduceLeDiff,
      if_false, if_true, hleap, beq_self_eq_true]
    split at hshort
    · rename_i hlong
      rw [if_pos hlong]
      omega
    · rename_i hcommon
      rw [if_neg hcommon]
      omega
  · unfold standing
    generalize march dayOfYear = m at *
    interval_cases m <;> simp [daysInMonth] at hlast ⊢ <;> omega

theorem StandsAt.month_bounds (h : StandsAt day era year dayOfYear) :
    1 ≤ (standing era year dayOfYear).month ∧ (standing era year dayOfYear).month ≤ 12 := by
  have hmarch := h.march_le
  simp only [standing]
  split <;> omega

theorem StandsAt.toDay_standing (h : StandsAt day era year dayOfYear) :
    (standing era year dayOfYear).toDay = day := by
  have hmarch := h.march_le
  obtain ⟨hshifted, hfirst, hlast, _⟩ := h
  rw [daysBefore] at hshifted
  -- January and February belong to the year that began in March before them
  have hyear : (if (standing era year dayOfYear).month ≤ 2 then
      (standing era year dayOfYear).year - 1 else (standing era year dayOfYear).year) =
      year + era * 400 := by
    simp only [standing]
    split <;> omega
  have hday : (153 * (((standing era year dayOfYear).month + 9) % 12) + 2) / 5 +
      (standing era year dayOfYear).day - 1 = dayOfYear := by
    have hmonth : ((standing era year dayOfYear).month + 9) % 12 = march dayOfYear := by
      simp only [standing]
      split <;> omega
    rw [hmonth]
    simp only [standing, march]
    omega
  rw [toDay, hyear, hday]
  omega

theorem toDay_ofDay (day : Int) : (ofDay day).toDay = day := by
  obtain ⟨era, year, dayOfYear, h, heq⟩ := ofDay_eq day
  rw [heq]
  exact h.toDay_standing

theorem daysBefore_mono {year later : Int} (h : year ≤ later) :
    daysBefore year ≤ daysBefore later := by
  simp only [daysBefore]
  omega

theorem StandsAt.lt_next (h : StandsAt day era year dayOfYear) :
    daysBefore year + dayOfYear < daysBefore (year + 1) := by
  have hshort := h.short
  rw [daysBefore_succ]
  split at hshort
  · rename_i hleap
    rw [if_pos hleap]
    omega
  · rename_i hcommon
    rw [if_neg hcommon]
    omega

-- After 306 days the year of the calendar is the next one.
theorem StandsAt.year_standing (h : StandsAt day era year dayOfYear) :
    (standing era year dayOfYear).year = year + era * 400 + if 306 ≤ dayOfYear then 1 else 0 := by
  have hmarch := h.march_le
  have hquotient : march dayOfYear = (5 * dayOfYear + 2) / 153 := rfl
  have hmonth : (if march dayOfYear < 10 then march dayOfYear + 3 else march dayOfYear - 9) ≤ 2 ↔
      306 ≤ dayOfYear := by
    split <;> omega
  simp only [standing, hmonth]

-- The days from the first of January of the first year to the end of the last year.
theorem year_ofDay_bounds (hfirst : -96465292 ≤ day) (hlast : day ≤ 95026236) :
    firstYear ≤ (ofDay day).year ∧ (ofDay day).year ≤ lastYear := by
  obtain ⟨era, year, dayOfYear, h, heq⟩ := ofDay_eq day
  have hshifted := h.shifted
  have hnext := h.lt_next
  have hera : daysBefore (year + 1) ≤ daysBefore 400 := daysBefore_mono (by have := h.last; omega)
  have hstart : 0 ≤ daysBefore year := daysBefore_mono h.first
  have hlong : daysBefore 400 = 146097 := rfl
  rw [eraOffset] at hshifted
  rw [heq, h.year_standing, firstYear, lastYear]
  constructor
  · -- the first year begins 306 days after the first of March of the year 256 of an era
    have hfrom : daysBefore 256 = 93502 := rfl
    rcases Int.lt_or_le year 256 with hbefore | hsince
    · have hle : daysBefore (year + 1) ≤ daysBefore 256 := daysBefore_mono (by omega)
      have := h.first
      split <;> omega
    · split
      · omega
      · rename_i hautumn
        by_contra hearly
        obtain rfl : year = 256 := by omega
        omega
  · have hto : daysBefore 142 = 51864 := rfl
    rcases Int.lt_or_le 142 year with hafter | huntil
    · have hle : daysBefore 143 ≤ daysBefore year := daysBefore_mono (by omega)
      have hlater : daysBefore 143 = 52229 := rfl
      have := h.last
      split <;> omega
    · split
      · rename_i hwinter
        by_contra hlate
        obtain rfl : year = 142 := by omega
        omega
      · omega

theorem daysInMonth_le (year : Int) (month : Nat) : daysInMonth year month ≤ 31 := by
  unfold daysInMonth
  split
  · split <;> decide
  · split <;> decide

theorem isValid_iff (d : Date) :
    d.isValid = true ↔ firstYear ≤ d.year ∧ d.year ≤ lastYear ∧ 1 ≤ d.month ∧ d.month ≤ 12 ∧
      1 ≤ d.day ∧ d.day ≤ daysInMonth d.year d.month := by
  simp [isValid, and_assoc]

theorem isValid_ofDay (hfirst : -96465292 ≤ day) (hlast : day ≤ 95026236) :
    (ofDay day).isValid = true := by
  obtain ⟨hyear, hyears⟩ := year_ofDay_bounds hfirst hlast
  obtain ⟨era, year, dayOfYear, h, heq⟩ := ofDay_eq day
  rw [heq] at hyear hyears ⊢
  obtain ⟨hmonth, hmonths⟩ := h.month_bounds
  exact (isValid_iff _).mpr ⟨hyear, hyears, hmonth, hmonths, Nat.le_add_left _ _, h.day_le⟩

end Gallery.Date
