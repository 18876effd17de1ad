/-
This file proves that the calendar gives every day one date. Four hundred years have the same number
of days wherever they start, so a day is found by its era of four hundred years, the year of the
era, the month counted from March and the day of the month; counting the days up to that date leads
back to the day.
-/

import Mathlib.Tactic.SplitIfs
import Triage.Timestamp

namespace Triage.Timestamp

/-- The year of an era that a day of the era falls in, with the day's place in that year. A century
has 36524 days and four years have 1461, but the last century of an era has a day more and the last
four years of the other centuries have one less. -/
theorem yearOfEra_bounds {dayOfEra : Int} (first : 0 ≤ dayOfEra) (last : dayOfEra < 146097) :
    ∃ yearOfEra dayOfYear : Int,
      (dayOfEra - dayOfEra / 1460 + dayOfEra / 36524 - dayOfEra / 146096) / 365 = yearOfEra ∧
      0 ≤ yearOfEra ∧ yearOfEra < 400 ∧ 0 ≤ dayOfYear ∧ dayOfYear ≤ 365 ∧
      dayOfEra = 365 * yearOfEra + yearOfEra / 4 - yearOfEra / 100 + dayOfYear := by
  by_cases leapDay : dayOfEra = 146096
  · subst leapDay
    exact ⟨399, 365, by decide⟩
  have notLast : dayOfEra / 146096 = 0 := by omega
  obtain ⟨century, rest, inEra, inCentury, split⟩ : ∃ century rest : Int,
      (0 ≤ century ∧ century ≤ 3) ∧ (0 ≤ rest ∧ rest < 36524) ∧
        dayOfEra = 36524 * century + rest :=
    ⟨dayOfEra / 36524, dayOfEra % 36524, by omega, by omega, by omega⟩
  obtain ⟨fours, day, inFours, inDays, splitRest⟩ : ∃ fours day : Int,
      (0 ≤ fours ∧ fours ≤ 24) ∧ (0 ≤ day ∧ day ≤ 1460) ∧ rest = 1461 * fours + day :=
    ⟨rest / 1461, rest % 1461, by omega, by omega, by omega⟩
  have centuries : dayOfEra / 36524 = century := by omega
  -- A leap day is counted off too early only within the last year of four, which it cannot leave.
  obtain ⟨early, within, leapDays⟩ : ∃ early : Int,
      (early = 0 ∧ day < 1460 ∨ early = 1 ∧ 1364 ≤ day) ∧
        dayOfEra / 1460 = 25 * century + fours + early := by
    by_cases before : 24 * century + fours + day < 1460
    · exact ⟨0, by omega, by omega⟩
    · exact ⟨1, by omega, by omega⟩
  rw [notLast, centuries, leapDays]
  obtain ⟨year, inFour, years⟩ : ∃ year : Int, (0 ≤ year ∧ year ≤ 3) ∧ (day - early) / 365 = year :=
    ⟨_, by omega, rfl⟩
  have found : (dayOfEra - (25 * century + fours + early) + century - 0) / 365 =
      100 * century + 4 * fours + year := by omega
  have leapYears : (100 * century + 4 * fours + year) / 4 = 25 * century + fours := by omega
  have commonCenturies : (100 * century + 4 * fours + year) / 100 = century := by omega
  refine ⟨_, day - 365 * year, found, ?_⟩
  rw [leapYears, commonCenturies]
  omega

/-- The parts of the date of a day. -/
theorem exists_dateOf_eq (days : Int) :
    ∃ era yearOfEra month day : Int, (0 ≤ yearOfEra ∧ yearOfEra < 400) ∧
      (0 ≤ month ∧ month < 12) ∧ (0 ≤ day ∧ day < 31) ∧
      days + 719468 = era * 146097 + (365 * yearOfEra + yearOfEra / 4 - yearOfEra / 100) +
        (153 * month + 2) / 5 + day ∧
      dateOf days = (yearOfEra + era * 400 + (if month < 10 then 0 else 1),
        (if month < 10 then month + 3 else month - 9).toNat, (day + 1).toNat) := by
  obtain ⟨era, dayOfEra, first, last, split⟩ : ∃ era dayOfEra : Int,
      0 ≤ dayOfEra ∧ dayOfEra < 146097 ∧ days + 719468 = era * 146097 + dayOfEra :=
    ⟨(days + 719468) / 146097, (days + 719468) % 146097, by omega, by omega, by omega⟩
  obtain ⟨yearOfEra, dayOfYear, found, yearFirst, yearLast, dayFirst, dayLast, splitEra⟩ :=
    yearOfEra_bounds first last
  have eraFound : (days + 719468) / 146097 = era := by omega
  refine ⟨era, yearOfEra, (5 * dayOfYear + 2) / 153,
    dayOfYear - (153 * ((5 * dayOfYear + 2) / 153) + 2) / 5, ⟨yearFirst, yearLast⟩, by omega,
    by omega, by omega, ?_⟩
  have dayOfEraFound : days + 719468 - era * 146097 = dayOfEra := by omega
  have dayOfYearFound :
      dayOfEra - (365 * yearOfEra + yearOfEra / 4 - yearOfEra / 100) = dayOfYear := by omega
  obtain ⟨month, inYear, months⟩ : ∃ month : Int,
      (0 ≤ month ∧ month < 12) ∧ (5 * dayOfYear + 2) / 153 = month := ⟨_, by omega, rfl⟩
  simp only [dateOf, Int.fdiv_eq_ediv_of_nonneg, Int.reduceLE, eraFound, dayOfEraFound, found,
    dayOfYearFound, months]
  refine Prod.ext ?_ rfl
  show (if (if month < 10 then month + 3 else month - 9) ≤ 2 then _ else _) = _
  split_ifs <;> omega

/-- Counting the days up to the date of a day leads back to the day. -/
theorem dayNumber_dateOf (days : Int) :
    dayNumber (dateOf days).1 (dateOf days).2.1 (dateOf days).2.2 = days := by
  obtain ⟨era, yearOfEra, month, day, inEra, inYear, inMonth, split, date⟩ := exists_dateOf_eq days
  have eraFound : (yearOfEra + era * 400) / 400 = era := by omega
  have yearFound : yearOfEra + era * 400 - era * 400 = yearOfEra := by omega
  rw [date]
  by_cases early : month < 10
  · have march : ¬ (month + 3).toNat ≤ 2 := by omega
    simp only [dayNumber, early, if_true, march, if_false, Int.fdiv_eq_ediv_of_nonneg, Int.reduceLE,
      Int.add_zero, eraFound, yearFound]
    omega
  · have january : (month - 9).toNat ≤ 2 := by omega
    simp only [dayNumber, early, january, if_true, if_false, Int.fdiv_eq_ediv_of_nonneg,
      Int.reduceLE, Int.add_sub_cancel, eraFound, yearFound]
    omega

theorem dateOf_bounds (days : Int) :
    (1 ≤ (dateOf days).2.1 ∧ (dateOf days).2.1 ≤ 12) ∧
      (1 ≤ (dateOf days).2.2 ∧ (dateOf days).2.2 ≤ 31) := by
  obtain ⟨era, yearOfEra, month, day, inEra, inYear, inMonth, split, date⟩ := exists_dateOf_eq days
  have monthFound : (dateOf days).2.1 = (if month < 10 then month + 3 else month - 9).toNat := by
    rw [date]
  have dayFound : (dateOf days).2.2 = (day + 1).toNat := by rw [date]
  rw [monthFound, dayFound]
  split_ifs <;> omega

/-- The date of a day is one that the calendar has. -/
theorem isDate_dateOf (days : Int) :
    isDate (dateOf days).1 (dateOf days).2.1 (dateOf days).2.2 = true := by
  have found := dayNumber_dateOf days
  have bounds := dateOf_bounds days
  simp [isDate, found, bounds]

end Triage.Timestamp
