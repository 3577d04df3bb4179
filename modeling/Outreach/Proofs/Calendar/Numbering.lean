import Mathlib.Data.Int.Order.Basic
import Outreach.Calendar.Instant

/-!
# The numbering of days

Dates and day numbers determine each other. A year counted from March begins at a number that grows
with the year, and within it the months begin at days that do not depend on the year, because a leap
day comes last (`yearStart`, `monthStart`). So the number of a day falls into one year and in that
year into one month, which is what `dateOfNumber` looks for.
-/

namespace Outreach

namespace Calendar

/-- The days before the first of March of a year, counted from the first of March of the year
zero. -/
def yearStart (year : Int) : Int := 365 * year + year / 4 - year / 100 + year / 400

/-- The days from the first of March to the beginning of a month, March being month zero. -/
def monthStart (month : Int) : Int := (153 * month + 2) / 5

def marchYear (year : Int) (month : Nat) : Int := if month ≤ 2 then year - 1 else year

def marchMonth (month : Nat) : Int := (month + 9) % 12

theorem numberOfDate_eq (year : Int) (month day : Nat) :
    numberOfDate year month day =
      yearStart (marchYear year month) + (monthStart (marchMonth month) + (day - 1)) - 719468 := by
  simp only [numberOfDate, yearStart, monthStart, marchYear, marchMonth]
  omega

/-! ### Lengths of years and months -/

theorem yearStart_lt {first second : Int} (hlt : first < second) :
    yearStart first + 365 ≤ yearStart second := by
  unfold yearStart
  omega

theorem yearStart_succ_le {first second : Int} (hlt : first < second) :
    yearStart (first + 1) ≤ yearStart second := by
  unfold yearStart
  omega

/-- A year by its place in an era of four hundred years, a century and a cycle of four years. -/
theorem yearStart_of_cycles (era : Int) {century cycle year : Int}
    (hcentury : 0 ≤ century ∧ century ≤ 3) (hcycle : 0 ≤ cycle ∧ cycle ≤ 24)
    (hyear : 0 ≤ year ∧ year ≤ 3) :
    yearStart (400 * era + 100 * century + 4 * cycle + year) =
      146097 * era + 36524 * century + 1461 * cycle + 365 * year := by
  have hfour : (400 * era + 100 * century + 4 * cycle + year) / 4 =
      100 * era + 25 * century + cycle := by
    omega
  have hhundred : (400 * era + 100 * century + 4 * cycle + year) / 100 = 4 * era + century := by
    omega
  have hera : (400 * era + 100 * century + 4 * cycle + year) / 400 = era := by omega
  rw [yearStart, hfour, hhundred, hera]
  omega

/-- A day of a year comes before the next year. A day 365 is the last of a leap year, after which
another cycle begins or, after four centuries, another era. -/
theorem add_lt_yearStart_succ (era : Int) {century cycle year day : Int}
    (hcentury : 0 ≤ century ∧ century ≤ 3) (hcycle : 0 ≤ cycle ∧ cycle ≤ 24)
    (hyear : 0 ≤ year ∧ year ≤ 3) (hday : day ≤ 365)
    (hlast : day = 365 → year = 3 ∧ (cycle < 24 ∨ cycle = 24 ∧ century = 3)) :
    yearStart (400 * era + 100 * century + 4 * cycle + year) + day <
      yearStart (400 * era + 100 * century + 4 * cycle + year + 1) := by
  have hstart := yearStart_of_cycles era hcentury hcycle hyear
  rcases Int.lt_or_eq_of_le hday with hshort | hlong
  · have hlength := yearStart_lt (Int.lt_succ (400 * era + 100 * century + 4 * cycle + year))
    omega
  · rcases hlast hlong with ⟨rfl, hnext | ⟨rfl, rfl⟩⟩
    · have hnextYear : yearStart (400 * era + 100 * century + 4 * (cycle + 1) + 0) = _ :=
        yearStart_of_cycles era hcentury (by omega) (by decide)
      rw [show 400 * era + 100 * century + 4 * cycle + 3 + 1 =
        400 * era + 100 * century + 4 * (cycle + 1) + 0 by omega]
      omega
    · have hnextYear : yearStart (400 * (era + 1) + 100 * 0 + 4 * 0 + 0) = _ :=
        yearStart_of_cycles (era + 1) (by decide) (by decide) (by decide)
      rw [show 400 * era + 100 * 3 + 4 * 24 + 3 + 1 =
        400 * (era + 1) + 100 * 0 + 4 * 0 + 0 by omega]
      omega

theorem isLeap_iff (year : Int) :
    isLeap year = true ↔ year % 4 = 0 ∧ (year % 100 ≠ 0 ∨ year % 400 = 0) := by
  simp [isLeap]

/-- February ends with the year that began in March. -/
theorem monthLength_february (year : Int) :
    (monthLength year 2 : Int) = yearStart year - yearStart (year - 1) - monthStart 11 := by
  unfold yearStart monthStart
  by_cases h : isLeap year = true
  · have hleap := (isLeap_iff year).mp h
    rw [monthLength, if_pos rfl, if_pos h]
    omega
  · have hleap := mt (isLeap_iff year).mpr h
    rw [monthLength, if_pos rfl, if_neg h]
    omega

/-- Any other month ends where the next one begins. -/
theorem monthLength_of_ne (year : Int) {month : Nat} (hne : month ≠ 2) (hleast : 1 ≤ month)
    (hmost : month ≤ 12) :
    (monthLength year month : Int) =
      monthStart (marchMonth month + 1) - monthStart (marchMonth month) := by
  rw [monthLength, if_neg hne]
  by_cases hshort : month = 4 ∨ month = 6 ∨ month = 9 ∨ month = 11
  · rw [if_pos hshort]
    rcases hshort with rfl | rfl | rfl | rfl <;> decide
  · rw [if_neg hshort, if_pos ⟨hleast, hmost⟩]
    obtain rfl | rfl | rfl | rfl | rfl | rfl | rfl : month = 1 ∨ month = 3 ∨ month = 5 ∨
      month = 7 ∨ month = 8 ∨ month = 10 ∨ month = 12 := by omega
    all_goals decide

theorem monthLength_le (year : Int) (month : Nat) : monthLength year month ≤ 31 := by
  unfold monthLength
  split
  · split <;> decide
  · split
    · decide
    · split <;> decide

/-! ### Places in the year from March -/

/-- A month and a day of it, in whatever year. -/
structure InYear (year : Int) (month day : Nat) : Prop where
  day_pos : 1 ≤ day
  day_le : day ≤ monthLength year month

theorem IsDate.inYear {year : Int} {month day : Nat} (h : IsDate year month day) :
    InYear year month day :=
  ⟨h.2.2.1, h.2.2.2⟩

/-- The year from March, the month of it and the day of it that a day number falls into. -/
structure FallsInto (number year month day : Int) : Prop where
  number_eq : number + 719468 = yearStart year + day
  day_lt : yearStart year + day < yearStart (year + 1)
  month_nonneg : 0 ≤ month
  month_le : month ≤ 11
  start_le : monthStart month ≤ day
  lt_start : day < monthStart (month + 1)

theorem FallsInto.day_nonneg {number year month day : Int} (h : FallsInto number year month day) :
    0 ≤ day := by
  have hmonth := h.month_nonneg
  have hstart := h.start_le
  unfold monthStart at hstart
  omega

theorem FallsInto.unique {number year month day year' month' day' : Int}
    (hfirst : FallsInto number year month day) (hsecond : FallsInto number year' month' day') :
    year = year' ∧ month = month' ∧ day = day' := by
  have hequal := hfirst.number_eq.symm.trans hsecond.number_eq
  have hyear : year = year' := by
    rcases lt_trichotomy year year' with hlt | heq | hgt
    · have := yearStart_succ_le hlt
      have := hfirst.day_lt
      have := hsecond.day_nonneg
      omega
    · exact heq
    · have := yearStart_succ_le hgt
      have := hsecond.day_lt
      have := hfirst.day_nonneg
      omega
  subst hyear
  have hday : day = day' := by omega
  subst hday
  refine ⟨rfl, ?_, rfl⟩
  have hbounds := And.intro hfirst.start_le hfirst.lt_start
  have hbounds' := And.intro hsecond.start_le hsecond.lt_start
  unfold monthStart at hbounds hbounds'
  omega

/-- The date of a day of a month of the year from March; January and February belong to the next
year. -/
def dateInMarchYear (year month day : Int) : Int × Nat × Nat :=
  let dayOfMonth := (day - monthStart month + 1).toNat
  if month < 10 then (year, (month + 3).toNat, dayOfMonth)
  else (year + 1, (month - 9).toNat, dayOfMonth)

/-- The date of a number is looked for where it falls. -/
theorem dateOfNumber_eq (number : Int) :
    ∃ year month day, FallsInto number year month day ∧
      dateOfNumber number = dateInMarchYear year month day := by
  unfold dateOfNumber
  dsimp only
  generalize hshifted : number + 719468 = shifted
  generalize hera : shifted / 146097 = era
  generalize hdayOfEra : shifted % 146097 = dayOfEra
  generalize hcentury : min (dayOfEra / 36524) 3 = century
  generalize hdayOfCentury : dayOfEra - century * 36524 = dayOfCentury
  generalize hcycle : dayOfCentury / 1461 = cycle
  generalize hdayOfCycle : dayOfCentury % 1461 = dayOfCycle
  generalize hyearOfCycle : min (dayOfCycle / 365) 3 = yearOfCycle
  generalize hday : dayOfCycle - yearOfCycle * 365 = day
  generalize hmonth : (5 * day + 2) / 153 = month
  have hcentury' : 0 ≤ century ∧ century ≤ 3 := by omega
  have hcenturyDays : 0 ≤ dayOfCentury ∧ dayOfCentury ≤ 36524 ∧
      (century < 3 → dayOfCentury < 36524) := by
    omega
  have hcycle' : 0 ≤ cycle ∧ cycle ≤ 24 := by omega
  have hyear' : 0 ≤ yearOfCycle ∧ yearOfCycle ≤ 3 := by omega
  have hyearDays : 0 ≤ day ∧ day ≤ 365 ∧ (yearOfCycle < 3 → day < 365) := by omega
  have hlast : day = 365 → yearOfCycle = 3 ∧ (cycle < 24 ∨ cycle = 24 ∧ century = 3) := by omega
  have hmonth' : 0 ≤ month ∧ month ≤ 11 ∧ monthStart month ≤ day ∧
      day < monthStart (month + 1) := by
    unfold monthStart
    omega
  have hyearStart := yearStart_of_cycles era hcentury' hcycle' hyear'
  obtain ⟨hnonneg, hle, hstart, hnext⟩ := hmonth'
  exact ⟨400 * era + 100 * century + 4 * cycle + yearOfCycle, month, day,
    ⟨by omega, add_lt_yearStart_succ era hcentury' hcycle' hyear' hyearDays.2.1 hlast, hnonneg, hle,
      hstart, hnext⟩, rfl⟩

variable {year : Int} {month day : Nat}

theorem InYear.month_bounds (h : InYear year month day) : 1 ≤ month ∧ month ≤ 12 := by
  have hpos := Nat.lt_of_lt_of_le h.day_pos h.day_le
  unfold monthLength at hpos
  split at hpos
  · omega
  · split at hpos
    · omega
    · split at hpos
      · assumption
      · exact absurd hpos (Nat.lt_irrefl 0)

theorem InYear.day_le_longest (h : InYear year month day) : day ≤ 31 :=
  Nat.le_trans h.day_le (monthLength_le year month)

/-- The days from the first of March to a day of the year that begins there. -/
def dayOfYear (month day : Nat) : Int := monthStart (marchMonth month) + (day - 1)

theorem marchMonth_bounds (month : Nat) : 0 ≤ marchMonth month ∧ marchMonth month ≤ 11 := by
  unfold marchMonth
  omega

theorem InYear.fallsInto (h : InYear year month day) :
    FallsInto (numberOfDate year month day) (marchYear year month) (marchMonth month)
      (dayOfYear month day) := by
  obtain ⟨hleast, hmost⟩ := h.month_bounds
  obtain ⟨hday, hlength⟩ := h
  obtain ⟨hnonneg, hle⟩ := marchMonth_bounds month
  have hnumber : numberOfDate year month day + 719468 =
      yearStart (marchYear year month) + dayOfYear month day := by
    have := numberOfDate_eq year month day
    unfold dayOfYear
    omega
  have hstart : monthStart (marchMonth month) ≤ dayOfYear month day := by
    unfold dayOfYear
    omega
  suffices hends : yearStart (marchYear year month) + dayOfYear month day <
      yearStart (marchYear year month + 1) ∧
        dayOfYear month day < monthStart (marchMonth month + 1) from
    ⟨hnumber, hends.1, hnonneg, hle, hstart, hends.2⟩
  unfold dayOfYear
  by_cases hfebruary : month = 2
  · subst hfebruary
    have hlast := monthLength_february year
    have hlongest : monthLength year 2 ≤ 29 := by
      rw [monthLength, if_pos rfl]
      split <;> decide
    rw [show marchYear year 2 = year - 1 from rfl, Int.sub_add_cancel]
    simp only [show marchMonth 2 = 11 from rfl, monthStart] at hlast ⊢
    omega
  · have hlast := monthLength_of_ne year hfebruary hleast hmost
    have hyear := yearStart_lt (Int.lt_succ (marchYear year month))
    have hwithin : monthStart (marchMonth month + 1) ≤ 337 := by
      unfold monthStart marchMonth
      omega
    omega

/-- The date that its place in the year from March gives back. -/
theorem InYear.dateInMarchYear_eq (h : InYear year month day) :
    dateInMarchYear (marchYear year month) (marchMonth month) (dayOfYear month day) =
      (year, month, day) := by
  obtain ⟨hleast, hmost⟩ := h.month_bounds
  have hpos := h.day_pos
  have hday : (dayOfYear month day - monthStart (marchMonth month) + 1).toNat = day := by
    unfold dayOfYear
    omega
  unfold dateInMarchYear
  rw [hday]
  by_cases hearly : month ≤ 2
  · have hmarch : marchMonth month = month + 9 := by
      unfold marchMonth
      omega
    rw [hmarch, if_neg (by omega), marchYear, if_pos hearly, Int.sub_add_cancel]
    congr 2
    omega
  · have hmarch : marchMonth month = month - 3 := by
      unfold marchMonth
      omega
    rw [hmarch, if_pos (by omega), marchYear, if_neg hearly]
    congr 2
    omega

/-- A date is found again from its number. -/
theorem InYear.dateOfNumber_numberOfDate (h : InYear year month day) :
    dateOfNumber (numberOfDate year month day) = (year, month, day) := by
  obtain ⟨year', month', day', hfalls, hdate⟩ := dateOfNumber_eq (numberOfDate year month day)
  obtain ⟨rfl, rfl, rfl⟩ := hfalls.unique h.fallsInto
  rw [hdate, h.dateInMarchYear_eq]

/-- A place in the year from March is that of the date that it gives. -/
theorem of_dateInMarchYear {march monthOfMarch dayOfMarch : Int} (hnonneg : 0 ≤ monthOfMarch)
    (hle : monthOfMarch ≤ 11) (hstart : monthStart monthOfMarch ≤ dayOfMarch)
    (hdate : dateInMarchYear march monthOfMarch dayOfMarch = (year, month, day)) :
    marchYear year month = march ∧ marchMonth month = monthOfMarch ∧
      dayOfYear month day = dayOfMarch ∧ 1 ≤ month ∧ month ≤ 12 ∧ 1 ≤ day := by
  suffices hplace : marchYear year month = march ∧ marchMonth month = monthOfMarch ∧
      1 ≤ month ∧ month ≤ 12 ∧ day = (dayOfMarch - monthStart monthOfMarch + 1).toNat by
    obtain ⟨hyear, hmonth, hleast, hmost, hday⟩ := hplace
    rw [dayOfYear, hmonth]
    omega
  unfold dateInMarchYear at hdate
  unfold marchYear marchMonth
  by_cases hspring : monthOfMarch < 10
  · rw [if_pos hspring] at hdate
    obtain ⟨rfl, rfl, rfl⟩ := by simpa using hdate
    omega
  · rw [if_neg hspring] at hdate
    obtain ⟨rfl, rfl, rfl⟩ := by simpa using hdate
    omega

/-- The date that is found for a number exists and has that number. -/
theorem FallsInto.date {number march monthOfMarch dayOfMarch : Int}
    (h : FallsInto number march monthOfMarch dayOfMarch)
    (hdate : dateInMarchYear march monthOfMarch dayOfMarch = (year, month, day)) :
    InYear year month day ∧ numberOfDate year month day = number := by
  obtain ⟨hnumber, hend, hnonneg, hle, hstart, hnext⟩ := h
  obtain ⟨rfl, rfl, rfl, hleast, hmost, hday⟩ := of_dateInMarchYear hnonneg hle hstart hdate
  have hnumberOfDate := numberOfDate_eq year month day
  unfold dayOfYear at *
  refine ⟨⟨hday, ?_⟩, by omega⟩
  by_cases hfebruary : month = 2
  · subst hfebruary
    have hlast := monthLength_february year
    rw [show marchYear year 2 = year - 1 from rfl, Int.sub_add_cancel] at hend
    rw [show marchMonth 2 = 11 from rfl] at hend
    omega
  · have hlast := monthLength_of_ne year hfebruary hleast hmost
    omega

/-- Every number is that of a date. -/
theorem numberOfDate_dateOfNumber (number : Int) :
    InYear (dateOfNumber number).1 (dateOfNumber number).2.1 (dateOfNumber number).2.2 ∧
      numberOfDate (dateOfNumber number).1 (dateOfNumber number).2.1 (dateOfNumber number).2.2 =
        number := by
  obtain ⟨march, monthOfMarch, dayOfMarch, hfalls, hdate⟩ := dateOfNumber_eq number
  exact hfalls.date hdate.symm

/-- The days of a year begin with the first of January. January and February end the year from
March before, so a year begins on its day 306. -/
theorem InYear.january_le_iff (h : InYear year month day) (first : Int) :
    numberOfDate first 1 1 ≤ numberOfDate year month day ↔ first ≤ year := by
  have hjanuary : numberOfDate first 1 1 + 719468 = yearStart (first - 1) + 306 := by
    have := numberOfDate_eq first 1 1
    rw [show marchYear first 1 = first - 1 from rfl, show marchMonth 1 = 10 from rfl,
      show monthStart 10 = 306 from rfl] at this
    omega
  have hfalls := h.fallsInto
  have hnumber := hfalls.number_eq
  have hend := hfalls.day_lt
  have hstart := hfalls.start_le
  have hnext := hfalls.lt_start
  obtain ⟨hleast, hmost⟩ := h.month_bounds
  by_cases hearly : month ≤ 2
  · rw [marchYear, if_pos hearly] at hnumber hend
    have hlate : 306 ≤ dayOfYear month day := by
      unfold monthStart marchMonth at hstart
      omega
    refine ⟨?_, ?_⟩
    · intro hle
      by_contra hlt
      have := yearStart_succ_le (show year - 1 < first - 1 by omega)
      omega
    · intro hle
      rcases Int.lt_or_eq_of_le hle with hlt | rfl
      · have := yearStart_lt (show first - 1 < year - 1 by omega)
        omega
      · omega
  · rw [marchYear, if_neg hearly] at hnumber hend
    have hbefore : dayOfYear month day < 306 := by
      unfold monthStart marchMonth at hnext
      omega
    refine ⟨?_, ?_⟩
    · intro hle
      by_contra hlt
      rcases Int.lt_or_eq_of_le (show year ≤ first - 1 by omega) with hearlier | rfl
      · have := yearStart_succ_le hearlier
        omega
      · omega
    · intro hle
      have := yearStart_lt (show first - 1 < year by omega)
      have := hfalls.day_nonneg
      omega

/-- The days of the years of four digits. -/
theorem InYear.number_bounds (h : InYear year month day) (hyear : 0 ≤ year ∧ year ≤ 9999) :
    -719834 ≤ numberOfDate year month day ∧ numberOfDate year month day < 2932957 := by
  have hnumber := h.fallsInto.number_eq
  have hend := h.fallsInto.day_lt
  have hstart := h.fallsInto.day_nonneg
  have hmarch : -1 ≤ marchYear year month ∧ marchYear year month ≤ 9999 := by
    unfold marchYear
    omega
  unfold yearStart at hnumber hend
  omega

end Calendar

end Outreach
