import Mathlib.Data.Int.Notation
import Mathlib.Tactic.IntervalCases

/-!
# The proleptic Gregorian calendar on day numbers

Day 0 is 1970-01-01.  The year is counted from March, so that the leap day is
the last day of the shifted year and every quantity is a quotient by a constant.
-/

namespace CivilCalendar

structure CivilDate where
  year : ℤ
  month : ℤ
  day : ℤ
  deriving DecidableEq

/-- The year inside a 400-year era that contains a given day of the era. -/
def yearOfEra (dayOfEra : ℤ) : ℤ :=
  (dayOfEra - dayOfEra / 1460 + dayOfEra / 36524 - dayOfEra / 146096) / 365

/-- The calendar date of a day number. -/
def civilOfDays (days : ℤ) : CivilDate :=
  let shifted := days + 719468
  let era := shifted / 146097
  let dayOfEra := shifted % 146097
  let yoe := yearOfEra dayOfEra
  let dayOfYear := dayOfEra - (365 * yoe + yoe / 4 - yoe / 100)
  let marchMonth := (5 * dayOfYear + 2) / 153
  let month := if marchMonth < 10 then marchMonth + 3 else marchMonth - 9
  { year := yoe + era * 400 + (if month ≤ 2 then 1 else 0)
    month := month
    day := dayOfYear - (153 * marchMonth + 2) / 5 + 1 }

example : civilOfDays 0 = ⟨1970, 1, 1⟩ := by decide

example : civilOfDays 19782 = ⟨2024, 2, 29⟩ := by decide

def isLeap (year : ℤ) : Bool := year % 4 = 0 ∧ (year % 100 ≠ 0 ∨ year % 400 = 0)

def daysInMonth (year month : ℤ) : ℤ :=
  if month = 2 then (if isLeap year then 29 else 28)
  else if month = 4 ∨ month = 6 ∨ month = 9 ∨ month = 11 then 30
  else 31

def CivilDate.Valid (date : CivilDate) : Prop :=
  (1 ≤ date.month ∧ date.month ≤ 12) ∧ 1 ≤ date.day ∧ date.day ≤ daysInMonth date.year date.month

instance (date : CivilDate) : Decidable date.Valid := by
  unfold CivilDate.Valid
  infer_instance

/-- Days before the first of March of the shifted year `y`. -/
def daysBeforeYear (y : ℤ) : ℤ := 365 * y + y / 4 - y / 100 + y / 400

/-- The day number of a calendar date. -/
def daysOfCivil (date : CivilDate) : ℤ :=
  let year := if date.month ≤ 2 then date.year - 1 else date.year
  let marchMonth := if date.month ≤ 2 then date.month + 9 else date.month - 3
  daysBeforeYear year + (153 * marchMonth + 2) / 5 + date.day - 1 - 719468

example : daysOfCivil ⟨2024, 2, 29⟩ = 19782 := by decide

/-! ## The year of an era -/

theorem century_spec {dayOfEra k y : ℤ} (hk : 0 ≤ k ∧ k ≤ 3)
    (hcentury : dayOfEra / 36524 = k) (hy : y = (dayOfEra - dayOfEra / 1460 + k) / 365) :
    y / 100 = k ∧ y / 400 = 0 ∧ 365 * y + y / 4 - k ≤ dayOfEra ∧
      dayOfEra < 365 * (y + 1) + (y + 1) / 4 - k := by
  obtain ⟨hk0, hk3⟩ := hk
  have hd : y / 100 = k := by interval_cases k <;> omega
  refine ⟨hd, by omega, ?_, ?_⟩
  · interval_cases k <;> omega
  · interval_cases k <;> omega

/-- `yearOfEra` finds the year in which the day lies. -/
theorem yearOfEra_spec {dayOfEra : ℤ} (h0 : 0 ≤ dayOfEra) (h1 : dayOfEra < 146097) :
    (0 ≤ yearOfEra dayOfEra ∧ yearOfEra dayOfEra ≤ 399) ∧
      daysBeforeYear (yearOfEra dayOfEra) ≤ dayOfEra ∧
      dayOfEra < daysBeforeYear (yearOfEra dayOfEra + 1) := by
  by_cases hlast : dayOfEra = 146096
  · subst hlast
    decide
  · have hl : dayOfEra / 146096 = 0 := by omega
    have hy : yearOfEra dayOfEra =
        (dayOfEra - dayOfEra / 1460 + dayOfEra / 36524) / 365 := by
      rw [yearOfEra, hl, Int.sub_zero]
    obtain ⟨hcentury, hera, hle, hlt⟩ := century_spec (by omega) rfl hy
    generalize yearOfEra dayOfEra = y at *
    unfold daysBeforeYear
    refine ⟨by omega, by omega, ?_⟩
    -- The next year may open a century, and then the whole century has passed.
    by_cases hnext : (y + 1) / 100 = y / 100
    · omega
    · obtain ⟨q, hq⟩ : ∃ q, y = 100 * q + 99 := ⟨y / 100, by omega⟩
      have hq03 : 0 ≤ q ∧ q ≤ 3 := by omega
      obtain ⟨hq0, hq3⟩ := hq03
      interval_cases q <;> omega

theorem daysBeforeYear_add_eras (y era : ℤ) :
    daysBeforeYear (y + era * 400) = daysBeforeYear y + era * 146097 := by
  unfold daysBeforeYear
  omega

theorem daysBeforeYear_add_one (y : ℤ) :
    daysBeforeYear (y + 1) = daysBeforeYear y + (if isLeap (y + 1) then 366 else 365) := by
  unfold daysBeforeYear isLeap
  simp only [decide_eq_true_eq]
  split_ifs <;> omega

/-! ## Dates and day numbers -/

/-- A day number lies in a shifted year, at the day that the date shows. -/
theorem civilOfDays_spec (days : ℤ) :
    ∃ year dayOfYear : ℤ,
      days + 719468 = daysBeforeYear year + dayOfYear ∧
      (0 ≤ dayOfYear ∧ dayOfYear < if isLeap (year + 1) then 366 else 365) ∧
      civilOfDays days =
        { year := if (5 * dayOfYear + 2) / 153 < 10 then year else year + 1
          month := if (5 * dayOfYear + 2) / 153 < 10 then (5 * dayOfYear + 2) / 153 + 3
            else (5 * dayOfYear + 2) / 153 - 9
          day := dayOfYear - (153 * ((5 * dayOfYear + 2) / 153) + 2) / 5 + 1 } := by
  have hday0 : 0 ≤ (days + 719468) % 146097 := by omega
  have hday1 : (days + 719468) % 146097 < 146097 := by omega
  obtain ⟨hyear, hle, hlt⟩ := yearOfEra_spec hday0 hday1
  rw [daysBeforeYear_add_one] at hlt
  generalize hy : yearOfEra ((days + 719468) % 146097) = y at *
  have hleap : isLeap (y + (days + 719468) / 146097 * 400 + 1) = isLeap (y + 1) := by
    unfold isLeap
    congr 1
    simp only [eq_iff_iff]
    omega
  have hyears : 365 * y + y / 4 - y / 100 = daysBeforeYear y := by
    unfold daysBeforeYear
    omega
  refine ⟨y + (days + 719468) / 146097 * 400,
    (days + 719468) % 146097 - daysBeforeYear y, ?_, ?_, ?_⟩
  · rw [daysBeforeYear_add_eras]
    omega
  · rw [hleap]
    omega
  · simp only [civilOfDays, hy, hyears, CivilDate.mk.injEq, and_true]
    split_ifs <;> omega

/-- The day number of the date of a day is that day. -/
theorem daysOfCivil_civilOfDays (days : ℤ) : daysOfCivil (civilOfDays days) = days := by
  obtain ⟨year, dayOfYear, hdays, ⟨h0, hlt⟩, hdate⟩ := civilOfDays_spec days
  have h365 : dayOfYear < 366 := by
    split_ifs at hlt <;> omega
  rw [hdate, daysOfCivil]
  by_cases hmonth : (5 * dayOfYear + 2) / 153 < 10
  · simp only [if_pos hmonth]
    rw [if_neg (by omega), if_neg (by omega)]
    omega
  · simp only [if_neg hmonth]
    rw [if_pos (by omega), if_pos (by omega), Int.add_sub_cancel]
    omega

theorem civilOfDays_valid (days : ℤ) : (civilOfDays days).Valid := by
  obtain ⟨year, dayOfYear, hdays, ⟨h0, hlt⟩, hdate⟩ := civilOfDays_spec days
  have h365 : dayOfYear < 366 := by
    split_ifs at hlt <;> omega
  have hmarch : 0 ≤ (5 * dayOfYear + 2) / 153 ∧ (5 * dayOfYear + 2) / 153 ≤ 11 := by omega
  rw [hdate, CivilDate.Valid]
  obtain ⟨hm0, hm11⟩ := hmarch
  by_cases hleap : isLeap (year + 1) = true
  · rw [if_pos hleap] at hlt
    generalize hm : (5 * dayOfYear + 2) / 153 = m at *
    interval_cases m <;> simp [daysInMonth, hleap] <;> omega
  · rw [if_neg hleap] at hlt
    generalize hm : (5 * dayOfYear + 2) / 153 = m at *
    interval_cases m <;> simp [daysInMonth, hleap] <;> omega

/-- The same day of a later year has a greater number. -/
theorem daysOfCivil_lt {year year' : ℤ} (h : year < year') (month day : ℤ) :
    daysOfCivil ⟨year, month, day⟩ < daysOfCivil ⟨year', month, day⟩ := by
  simp only [daysOfCivil, daysBeforeYear]
  split_ifs <;> omega

end CivilCalendar
