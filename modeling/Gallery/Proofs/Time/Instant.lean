import Gallery.Proofs.Text.Number
import Gallery.Proofs.Time.Date
import Gallery.Time.Instant

-- What the digits of an instant say. They are a date that exists in the calendar and a time of the
-- day, and name the instant to the millisecond.

namespace Gallery

open Text (Numeral)

-- A year is written in four digits. One that they cannot hold has a sign in front, and up to six.
inductive YearText : Int → List Char → Prop where
  | short {year : Nat} {cs : List Char} (h : Numeral 4 year cs) : YearText year cs
  | early {width year : Nat} {cs : List Char} (hyear : 0 < year)
      (hwide : 4 ≤ width ∧ width ≤ 6) (h : Numeral width year cs) : YearText (-year) ('-' :: cs)
  | late {width year : Nat} {cs : List Char} (hyear : 9999 < year)
      (hwide : 4 ≤ width ∧ width ≤ 6) (h : Numeral width year cs) : YearText year ('+' :: cs)

theorem YearText.length_bounds {year : Int} {cs : List Char} (h : YearText year cs) :
    4 ≤ cs.length ∧ cs.length ≤ 7 := by
  cases h with
  | short h =>
      have := h.length
      omega
  | early _ hwide h =>
      have := h.length
      rw [List.length_cons]
      omega
  | late _ hwide h =>
      have := h.length
      rw [List.length_cons]
      omega

-- A digit, or a sign of a year.
def IsTimeChar (c : Char) : Prop := c.isDigit = true ∨ c = '+' ∨ c = '-'

theorem Text.Numeral.isTimeChar {width n : Nat} {cs : List Char} (h : Numeral width n cs) :
    ∀ c ∈ cs, IsTimeChar c :=
  fun _ hc => Or.inl (Text.isDigit_of_mem_of_digits? h.value hc)

theorem YearText.isTimeChar {year : Int} {cs : List Char} (h : YearText year cs) :
    ∀ c ∈ cs, IsTimeChar c := by
  cases h with
  | short h => exact h.isTimeChar
  | early _ _ h => exact List.forall_mem_cons.mpr ⟨Or.inr (Or.inr rfl), h.isTimeChar⟩
  | late _ _ h => exact List.forall_mem_cons.mpr ⟨Or.inr (Or.inl rfl), h.isTimeChar⟩

-- A date with a time of the day, down to the millisecond.
structure Timepoint where
  date : Date
  hour : Nat
  minute : Nat
  second : Nat
  millisecond : Nat

namespace Timepoint

-- The date and the time of the day at an instant. In a leap second one second too many is counted.
structure IsAt (p : Timepoint) (t : Instant) : Prop where
  date : p.date.isValid = true
  hour : p.hour < 24
  minute : p.minute < 60
  whole : t.second / 60 = 1440 * p.date.toDay + 60 * p.hour + p.minute
  second : (p.second : Int) = t.second % 60 + t.nano / 1000000000
  millisecond : p.millisecond = t.nano % 1000000000 / 1000000

-- The digits of all parts, one after the other.
inductive Written (p : Timepoint) : List Char → Prop where
  | parts {year month day hour minute second millisecond : List Char}
      (hyear : YearText p.date.year year) (hmonth : Numeral 2 p.date.month month)
      (hday : Numeral 2 p.date.day day) (hhour : Numeral 2 p.hour hour)
      (hminute : Numeral 2 p.minute minute) (hsecond : Numeral 2 p.second second)
      (hmillisecond : Numeral 3 p.millisecond millisecond) :
      Written p (year ++ month ++ day ++ hour ++ minute ++ second ++ millisecond)

variable {p : Timepoint} {cs : List Char}

theorem Written.length_bounds (h : p.Written cs) : 17 ≤ cs.length ∧ cs.length ≤ 20 := by
  cases h with
  | parts hyear hmonth hday hhour hminute hsecond hmillisecond =>
      obtain ⟨hfour, hseven⟩ := hyear.length_bounds
      simp only [List.length_append, hmonth.length, hday.length, hhour.length, hminute.length,
        hsecond.length, hmillisecond.length]
      omega

theorem Written.isTimeChar (h : p.Written cs) : ∀ c ∈ cs, IsTimeChar c := by
  cases h with
  | parts hyear hmonth hday hhour hminute hsecond hmillisecond =>
      simp only [List.forall_mem_append]
      exact ⟨⟨⟨⟨⟨⟨hyear.isTimeChar, hmonth.isTimeChar⟩, hday.isTimeChar⟩, hhour.isTimeChar⟩,
        hminute.isTimeChar⟩, hsecond.isTimeChar⟩, hmillisecond.isTimeChar⟩

end Timepoint

namespace Instant

-- The digits of the date and the time of the day at an instant.
def Stamped (t : Instant) (cs : List Char) : Prop := ∃ p : Timepoint, p.IsAt t ∧ p.Written cs

def timepoint (t : Instant) : Timepoint :=
  ⟨t.date, t.hour, t.minute, t.secondOfMinute, t.subsecond / 1000000⟩

variable (t : Instant)

theorem second_bounds : firstSecond ≤ t.second ∧ t.second ≤ lastSecond ∧
    t.nano < 2 * nanosPerSecond := by
  simpa [isValid, and_assoc] using t.valid

theorem day_bounds : -96465292 ≤ t.second / 86400 ∧ t.second / 86400 ≤ 95026236 := by
  obtain ⟨hfirst, hlast, _⟩ := t.second_bounds
  rw [firstSecond] at hfirst
  rw [lastSecond] at hlast
  omega

theorem isAt_timepoint : t.timepoint.IsAt t := by
  obtain ⟨hfirst, hlast⟩ := t.day_bounds
  have hday : t.timepoint.date.toDay = t.second / 86400 := Date.toDay_ofDay _
  refine ⟨Date.isValid_ofDay hfirst hlast, ?_, ?_, ?_, ?_, rfl⟩
  · simp only [timepoint, hour, secondOfDay]
    omega
  · exact Nat.mod_lt _ (by decide)
  · rw [hday]
    simp only [timepoint, hour, minute, secondOfDay]
    omega
  · simp only [timepoint, secondOfMinute, secondOfDay, nanosPerSecond]
    omega

theorem yearText_yearDigits {year : Int} (hfirst : Date.firstYear ≤ year)
    (hlast : year ≤ Date.lastYear) : YearText year (yearDigits year) := by
  rw [Date.firstYear] at hfirst
  rw [Date.lastYear] at hlast
  obtain ⟨n, rfl | rfl⟩ := year.eq_nat_or_neg
  · by_cases hshort : n ≤ 9999
    · rw [yearDigits, if_pos (by simp; omega)]
      exact .short (Text.numeral_padded 4 (by decide) (by omega))
    · obtain ⟨width, hwide, hmost, h⟩ :=
        Text.exists_numeral_padded 4 6 (n := n) (by decide) (by decide) (by omega)
      rw [yearDigits, if_neg (by simp; omega), if_neg (by omega)]
      exact .late (by omega) ⟨hwide, hmost⟩ h
  · cases n with
    | zero =>
        have hzero : YearText ((0 : Nat) : Int) (yearDigits 0) :=
          .short (Text.numeral_padded 4 (by decide) (by decide))
        exact hzero
    | succ n =>
        obtain ⟨width, hwide, hmost, h⟩ :=
          Text.exists_numeral_padded 4 6 (n := n + 1) (by decide) (by decide) (by omega)
        rw [yearDigits, if_neg (by simp; omega), if_pos (by omega), Int.natAbs_neg]
        exact .early (by omega) ⟨hwide, hmost⟩ h

theorem written_stamp : t.timepoint.Written t.stamp := by
  have hat := t.isAt_timepoint
  obtain ⟨hfirst, hlast, _, hmonth, _, hday⟩ := (Date.isValid_iff _).mp hat.date
  have hdays := hday.trans (Date.daysInMonth_le _ _)
  obtain ⟨_, _, hnano⟩ := t.second_bounds
  rw [nanosPerSecond] at hnano
  have hhour := hat.hour
  have hminute := hat.minute
  have hsecond := hat.second
  have hmillisecond := hat.millisecond
  exact .parts (yearText_yearDigits hfirst hlast) (Text.numeral_padded 2 (by decide) (by omega))
    (Text.numeral_padded 2 (by decide) (by omega)) (Text.numeral_padded 2 (by decide) (by omega))
    (Text.numeral_padded 2 (by decide) (by omega)) (Text.numeral_padded 2 (by decide) (by omega))
    (Text.numeral_padded 3 (by decide) (by omega))

-- The digits of an instant name it to the millisecond.
theorem stamped_stamp : t.Stamped t.stamp := ⟨t.timepoint, t.isAt_timepoint, t.written_stamp⟩

end Instant

end Gallery
