import Mathlib.Tactic.ByContra
import Mathlib.Tactic.SplitIfs
import LintMend.Time

/-!
# Days and dates

The date of a day is a date of the calendar, and the day of that date is the day
again. Eras of four hundred years repeat; within one, a day is told by its
century, the four years around it, its year, and its place in the year.
-/

namespace LintMend.Instant

/-- Where a day of an era lies. Only the last year of four has a day more,
unless it ends a century that does not end the era. -/
private structure Placed (day century four year place : Nat) : Prop where
  sum : day = 36524 * century + 1461 * four + 365 * year + place
  inEra : century ≤ 3
  inCentury : four ≤ 24
  inFour : year ≤ 3
  inYear : place ≤ 365
  leapDay : place = 365 → year = 3 ∧ (four < 24 ∨ century = 3)

private theorem placed {day : Nat} (small : day < 146097) :
    ∃ century four year place, Placed day century four year place := by
  obtain ⟨century, century_eq⟩ : ∃ century, century = min (day / 36524) 3 :=
    ⟨_, rfl⟩
  obtain ⟨four, four_eq⟩ : ∃ four,
      four = min ((day - 36524 * century) / 1461) 24 := ⟨_, rfl⟩
  obtain ⟨year, year_eq⟩ :
      ∃ year, year = min ((day - 36524 * century - 1461 * four) / 365) 3 :=
    ⟨_, rfl⟩
  exact ⟨century, four, year,
    day - (36524 * century + 1461 * four + 365 * year), by omega, by omega, by
      omega, by omega, by omega, by omega⟩

section

variable {day century four year place : Nat}

/-- The four years are over a little early when they are counted in days. -/
private theorem fours_placed (placed : Placed day century four year place) :
    ∃ early, day / 1460 = 25 * century + four + early ∧ early ≤ place ∧
      place < 365 + early := by
  obtain ⟨sum, inEra, inCentury, inFour, inYear, leapDay⟩ := placed
  refine ⟨(24 * century + four + 365 * year + place) / 1460, ?_, by omega, ?_⟩
  · rw [sum, ← Nat.mul_add_div (by decide)]
    congr 1
    omega
  · by_contra short
    have last : place = 365 := by omega
    have := leapDay last
    omega

private theorem century_placed (placed : Placed day century four year place) :
    day / 36524 = century + day / 146096 := by
  obtain ⟨sum, inEra, inCentury, inFour, inYear, leapDay⟩ := placed
  by_cases last : day = 146096
  · obtain rfl : century = 3 := by omega
    rw [last]
  · have inside : 1461 * four + 365 * year + place < 36524 := by
      by_contra beyond
      have := leapDay (by omega)
      omega
    rw [sum, Nat.div_eq_of_lt (show _ < 146096 by omega)]
    clear leapDay
    omega

private theorem yearOfEra_placed (placed : Placed day century four year place) :
    (day - day / 1460 + day / 36524 - day / 146096) / 365 =
      100 * century + 4 * four + year := by
  obtain ⟨early, fours, inside⟩ := fours_placed placed
  have centuries := century_placed placed
  obtain ⟨sum, inEra, inCentury, inFour, inYear, leapDay⟩ := placed
  have days : day - day / 1460 + day / 36524 - day / 146096 =
      365 * (100 * century + 4 * four + year) + (place - early) := by
    rw [centuries, fours, ← Nat.add_assoc, Nat.add_sub_cancel, sum]
    clear centuries fours leapDay
    omega
  rw [days, Nat.mul_add_div (by decide), Nat.div_eq_of_lt (by omega),
    Nat.add_zero]

private theorem dayOfYear_placed (placed : Placed day century four year place) :
    day - (365 * (100 * century + 4 * four + year) +
        (100 * century + 4 * four + year) / 4
      - (100 * century + 4 * four + year) / 100) = place := by
  obtain ⟨sum, _, _, _, _, _⟩ := placed
  have fours : (100 * century + 4 * four + year) / 4 = 25 * century + four := by
    omega
  have hundreds : (100 * century + 4 * four + year) / 100 = century := by omega
  rw [fours, hundreds]
  omega

end

/-- A date of the calendar. -/
structure IsDate (year : Int) (month day : Nat) : Prop where
  inYear : 1 ≤ month ∧ month ≤ 12
  inMonth : 1 ≤ day ∧ day ≤ daysInMonth year month

/-- The month, counted from March, and the day in it. -/
private theorem march {place : Nat} (small : place ≤ 365) :
    ∃ month day, (5 * place + 2) / 153 = month ∧ month ≤ 11 ∧
      place = (153 * month + 2) / 5 + day ∧
      day < (if month = 11 then (if place = 365 then 29 else 28)
        else if month = 1 ∨ month = 3 ∨ month = 6 ∨ month = 8 then 30
        else 31) := by
  obtain ⟨month, month_eq⟩ : ∃ month, month = (5 * place + 2) / 153 := ⟨_, rfl⟩
  refine ⟨month, place - (153 * month + 2) / 5, month_eq.symm, by omega, by
    omega, ?_⟩
  split_ifs <;> omega

/-- The year in which the last day of a year counted from March lies is a leap
year. -/
private theorem isLeapYear_placed {day century four year place : Nat}
    (era : Int) (placed : Placed day century four year place)
    (last : place = 365) :
    isLeapYear ((100 * century + 4 * four + year : Nat) + era * 400 + 1) =
      true := by
  obtain ⟨_, _, _, _, _, leapDay⟩ := placed
  obtain ⟨rfl, inside⟩ := leapDay last
  simp only [isLeapYear,
    Int.fmod_eq_emod_of_nonneg _ (by decide : (0 : Int) ≤ 4),
    Int.fmod_eq_emod_of_nonneg _ (by decide : (0 : Int) ≤ 100),
    Int.fmod_eq_emod_of_nonneg _ (by decide : (0 : Int) ≤ 400),
    Bool.and_eq_true, Bool.or_eq_true, beq_iff_eq, bne_iff_ne]
  omega

/-- The day of a date of the calendar, with the year counted from March. -/
private theorem dayNumber_march {era : Int} {yearOfEra fromMarch behind : Nat}
    (inEra : yearOfEra < 400) (months : fromMarch ≤ 11) {year : Int}
    {month : Nat}
    (year_eq : year = yearOfEra + era * 400 + if month ≤ 2 then 1 else 0)
    (month_eq : month = if fromMarch <
      10 then fromMarch + 3 else fromMarch - 9) :
    dayNumber year month (behind + 1) =
      era * 146097 + (yearOfEra * 365 + yearOfEra / 4 - yearOfEra / 100
        + ((153 * fromMarch + 2) / 5 + behind : Nat)) - 719468 := by
  have shifted : (if month ≤ 2 then year - 1 else year) =
      yearOfEra + era * 400 := by
    split at year_eq <;> omega
  have back : (if 2 < month then month - 3 else month + 9) = fromMarch := by
    split at month_eq <;> split <;> omega
  have eras : (yearOfEra + era * 400) / 400 = era := by omega
  simp only [dayNumber, shifted, back,
    Int.fdiv_eq_ediv_of_nonneg _ (by decide : (0 : Int) ≤ 400),
    Int.fdiv_eq_ediv_of_nonneg _ (by decide : (0 : Int) ≤ 4),
    Int.fdiv_eq_ediv_of_nonneg _ (by decide : (0 : Int) ≤ 100), eras]
  omega

theorem dayNumber_dateOf {number year : Int} {month day : Nat}
    (date : dateOf number = (year, month, day)) :
    IsDate year month day ∧ dayNumber year month day = number := by
  obtain ⟨era, era_eq⟩ : ∃ era, era = (number + 719468) / 146097 := ⟨_, rfl⟩
  obtain ⟨dayOfEra, dayOfEra_eq⟩ :
      ∃ dayOfEra, dayOfEra = (number + 719468 - era * 146097).toNat := ⟨_, rfl⟩
  have inEra : (dayOfEra : Int) = number + 719468 - era * 146097 := by omega
  obtain ⟨century, four, yearInFour, place, placed⟩ :=
    placed (show dayOfEra < 146097 by omega)
  obtain ⟨fromMarch, behind, fromMarch_eq, months, place_eq, days⟩ :=
    march placed.inYear
  simp only [dateOf,
    Int.fdiv_eq_ediv_of_nonneg _ (by decide : (0 : Int) ≤ 146097), ← era_eq,
    ← dayOfEra_eq, yearOfEra_placed placed, dayOfYear_placed placed,
    fromMarch_eq, Prod.mk.injEq] at date
  obtain ⟨year_eq, month_eq, day_eq⟩ := date
  obtain rfl : behind + 1 = day := by omega
  rw [month_eq] at year_eq
  have leap := isLeapYear_placed era placed
  obtain ⟨sum, _, _, _, _, _⟩ := placed
  constructor
  · refine ⟨by split at month_eq <;> omega, by omega, ?_⟩
    by_cases february : fromMarch = 11
    · obtain rfl : month = 2 := by rw [← month_eq, if_neg (by omega)]; omega
      have inYear : year = (100 * century + 4 * four + yearInFour : Nat) + era *
          400 + 1 := by
        rw [← year_eq, if_pos (by omega)]
      rw [daysInMonth, if_pos rfl, inYear]
      rw [if_pos february] at days
      split at days
      next last =>
        rw [leap last, if_pos rfl]
        omega
      next => split <;> omega
    · rw [if_neg february] at days
      rw [daysInMonth]
      split at month_eq <;> split at days <;> split_ifs <;> omega
  · rw [dayNumber_march (by omega) months year_eq.symm month_eq.symm]
    have fours :
        ((100 * century + 4 * four + yearInFour : Nat) : Int) / 4 =
          25 * century + four := by
      omega
    have hundreds : ((100 * century + 4 * four + yearInFour : Nat) : Int) /
        100 = century := by
      omega
    omega

end LintMend.Instant
