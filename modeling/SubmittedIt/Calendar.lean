/-
SubmittedIt/Calendar.lean

The Gregorian calendar: library, independent of the model.

Days are counted from 1970-01-01.  `dateFromDay` finds the year from the mean
length of a year, which is off by at most one, and the month by walking
through the lengths of the months.

Main result: `dayFromDate_dateFromDay` (a day's date denotes that day, and is a
date of the calendar).
-/
import Mathlib

namespace Calendar

/-! ### Years and months -/

/-- Whether a year has a leap day. -/
def isLeapYear (year : Int) : Bool :=
  year % 4 = 0 && (year % 100 ≠ 0 || year % 400 = 0)

/-- The lengths of the months of a year. -/
def monthLengths (year : Int) : List Nat :=
  [31, if isLeapYear year then 29 else 28, 31, 30, 31, 30, 31, 31, 30, 31, 30, 31]

/-- The number of days of a month, counted from one; there is none in a month
that does not exist. -/
def daysInMonth (year : Int) (month : Nat) : Nat :=
  if month = 0 then 0 else (monthLengths year).getD (month - 1) 0

/-- The first day of a year. -/
def dayFromYear (year : Int) : Int :=
  365 * (year - 1970) + (year - 1969) / 4 - (year - 1901) / 100 + (year - 1601) / 400

/-- The day of a date. -/
def dayFromDate (year : Int) (month day : Nat) : Int :=
  dayFromYear year + ((monthLengths year).take (month - 1)).sum + (day - 1)

/-- The year of a day. -/
def yearFromDay (n : Int) : Int :=
  let year := 1970 + 400 * n / 146097
  if n < dayFromYear year then year - 1
  else if dayFromYear (year + 1) ≤ n then year + 1
  else year

/-- The month in which a day lies, and the day in it, both counted from zero. -/
def splitMonths : List Nat → Nat → Nat × Nat
  | [], d => (0, d)
  | length :: rest, d =>
    if d < length then (0, d)
    else ((splitMonths rest (d - length)).1 + 1, (splitMonths rest (d - length)).2)

/-- The date of a day. -/
def dateFromDay (n : Int) : Int × Nat × Nat :=
  let year := yearFromDay n
  let split := splitMonths (monthLengths year) (n - dayFromYear year).toNat
  (year, split.1 + 1, split.2 + 1)

/-! ### Lengths of years -/

theorem isLeapYear_iff {year : Int} :
    isLeapYear year = true ↔ year % 4 = 0 ∧ (year % 100 ≠ 0 ∨ year % 400 = 0) := by
  simp [isLeapYear]

/-- No month is longer than 31 days. -/
theorem daysInMonth_le (year : Int) (month : Nat) : daysInMonth year month ≤ 31 := by
  have hall : ∀ length ∈ monthLengths year, length ≤ 31 := by
    unfold monthLengths
    split <;> decide
  unfold daysInMonth
  split
  · omega
  · rcases hlength : (monthLengths year)[month - 1]? with - | length
    · rw [List.getD_eq_getElem?_getD, hlength]
      exact Nat.zero_le _
    · rw [List.getD_eq_getElem?_getD, hlength]
      exact hall length (List.mem_of_getElem? hlength)

/-- The months make up the year. -/
theorem dayFromYear_succ (year : Int) :
    dayFromYear (year + 1) = dayFromYear year + (monthLengths year).sum := by
  have hsum : ((monthLengths year).sum : Int) = if isLeapYear year then 366 else 365 := by
    unfold monthLengths
    split <;> rfl
  rw [hsum]
  unfold dayFromYear
  split
  · next h =>
    have h := isLeapYear_iff.mp h
    omega
  · next h =>
    rw [isLeapYear_iff] at h
    omega

theorem dayFromYear_mono {a b : Int} (h : a ≤ b) : dayFromYear a ≤ dayFromYear b := by
  unfold dayFromYear
  omega

/-- **A day lies in its year.** -/
theorem yearFromDay_spec (n : Int) :
    dayFromYear (yearFromDay n) ≤ n ∧ n < dayFromYear (yearFromDay n + 1) := by
  have hestimate : dayFromYear (1970 + 400 * n / 146097 - 1) ≤ n ∧
      n < dayFromYear (1970 + 400 * n / 146097 + 1 + 1) := by
    unfold dayFromYear
    constructor <;> omega
  unfold yearFromDay
  dsimp only
  split_ifs with hbefore hafter
  · rw [sub_add_cancel]
    exact ⟨hestimate.1, hbefore⟩
  · exact ⟨hafter, hestimate.2⟩
  · exact ⟨not_lt.mp hbefore, not_le.mp hafter⟩

/-! ### Dates -/

theorem splitMonths_spec {lengths : List Nat} {d : Nat} (h : d < lengths.sum) :
    (splitMonths lengths d).1 < lengths.length ∧
      (splitMonths lengths d).2 < lengths.getD (splitMonths lengths d).1 0 ∧
      (lengths.take (splitMonths lengths d).1).sum + (splitMonths lengths d).2 = d := by
  induction lengths generalizing d with
  | nil => cases h
  | cons length rest ih =>
    rw [List.sum_cons] at h
    unfold splitMonths
    split
    · next hd => exact ⟨Nat.succ_pos _, hd, Nat.zero_add d⟩
    · next hd =>
      obtain ⟨hmonth, hday, hsum⟩ := ih (d := d - length) (by omega)
      refine ⟨Nat.succ_lt_succ hmonth, hday, ?_⟩
      rw [List.take_succ_cons, List.sum_cons]
      omega

/-- A date of the calendar. -/
def IsDate (year : Int) (month day : Nat) : Prop :=
  1 ≤ month ∧ month ≤ 12 ∧ 1 ≤ day ∧ day ≤ daysInMonth year month

/-- **A day's date denotes that day.** -/
theorem dayFromDate_dateFromDay (n : Int) :
    dayFromDate (dateFromDay n).1 (dateFromDay n).2.1 (dateFromDay n).2.2 = n ∧
      IsDate (dateFromDay n).1 (dateFromDay n).2.1 (dateFromDay n).2.2 := by
  obtain ⟨hfirst, hnext⟩ := yearFromDay_spec n
  rw [dayFromYear_succ] at hnext
  obtain ⟨hmonth, hday, hsum⟩ := splitMonths_spec
    (show (n - dayFromYear (yearFromDay n)).toNat < (monthLengths (yearFromDay n)).sum by omega)
  have hlength : (monthLengths (yearFromDay n)).length = 12 := rfl
  unfold dateFromDay
  dsimp only
  constructor
  · unfold dayFromDate
    rw [Nat.add_sub_cancel]
    omega
  · refine ⟨by omega, by omega, by omega, ?_⟩
    rw [daysInMonth, if_neg (by omega), Nat.add_sub_cancel]
    exact hday

end Calendar
