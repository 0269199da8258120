/-!
# Dates

Days of the proleptic Gregorian calendar from year 1 to 9999, their ordinal numbers, and the
ISO weeks. A date carries the proof that it exists.
-/

namespace RecordRules

namespace Calendar

/-- A year with 29 February. -/
def isLeap (year : Nat) : Bool :=
  year % 4 == 0 && (year % 100 != 0 || year % 400 == 0)

/-- The length of a month. -/
def daysInMonth (year month : Nat) : Nat :=
  if month = 2 then (if isLeap year then 29 else 28)
  else if month = 4 ∨ month = 6 ∨ month = 9 ∨ month = 11 then 30
  else 31

/-- Days in the years before a year. -/
def daysBeforeYear (year : Nat) : Nat :=
  let past := year - 1
  past * 365 + past / 4 - past / 100 + past / 400

/-- Days of a year before a month. -/
def daysBeforeMonth (year : Nat) : Nat → Nat
  | 0 => 0
  | 1 => 0
  | month + 2 => daysBeforeMonth year (month + 1) + daysInMonth year (month + 1)

/-- A year, month and day that exist. -/
def Exists (year month day : Nat) : Prop :=
  (1 ≤ year ∧ year ≤ 9999) ∧ (1 ≤ month ∧ month ≤ 12) ∧ 1 ≤ day ∧ day ≤ daysInMonth year month

instance (year month day : Nat) : Decidable (Exists year month day) := by
  unfold Exists; infer_instance

/-- The last year, from `year` on, that begins before a day; the first argument bounds the
    number of steps. -/
def yearFrom (ordinal : Nat) : Nat → Nat → Nat
  | 0, year => year
  | bound + 1, year =>
    if daysBeforeYear (year + 1) < ordinal then yearFrom ordinal bound (year + 1) else year

/-- The month and day of month of a day counted from the beginning of `month`; the first argument
    bounds the number of steps. -/
def monthFrom (year : Nat) : Nat → Nat → Nat → Nat × Nat
  | 0, month, day => (month, day)
  | bound + 1, month, day =>
    if daysInMonth year month < day then
      monthFrom year bound (month + 1) (day - daysInMonth year month)
    else (month, day)

/-- The ordinal number of the Monday of the first ISO week of a year: the week that holds the
    year's first Thursday. -/
def firstMonday (year : Nat) : Nat :=
  let first := daysBeforeYear year + 1
  let weekday := (first + 6) % 7
  if weekday > 3 then first + 7 - weekday else first - weekday

/-- Whether a year has an ISO week of that number. -/
def hasWeek (year week : Nat) : Bool :=
  let weekday := (daysBeforeYear year + 1) % 7
  (0 < week && week < 53)
    || (week == 53 && (weekday == 4 || (weekday == 3 && isLeap year)))

end Calendar

open Calendar

/-- A day of the calendar. -/
structure Date where
  year : Nat
  month : Nat
  day : Nat
  real : Exists year month day
  deriving DecidableEq

namespace Date

/-- The date with a year, month and day, if it exists. -/
def of? (year month day : Nat) : Option Date :=
  if real : Exists year month day then some ⟨year, month, day, real⟩ else none

/-- The number of a day, 1 for the first day of year 1. -/
def ordinal (d : Date) : Nat :=
  daysBeforeYear d.year + daysBeforeMonth d.year d.month + d.day

/-- The date with an ordinal number. -/
def ofOrdinal? (n : Nat) : Option Date :=
  let year := yearFrom n n ((n - 1) / 366 + 1)
  let (month, day) := monthFrom year 12 1 (n - daysBeforeYear year)
  of? year month day

/-- The date of a weekday, 1 for Monday, in an ISO week. -/
def ofWeek? (year week weekday : Nat) : Option Date :=
  if (1 ≤ year && year ≤ 9999) && hasWeek year week && (1 ≤ weekday && weekday ≤ 7) then
    ofOrdinal? (firstMonday year + (week - 1) * 7 + (weekday - 1))
  else none

/-- The order of the calendar. -/
def le (a b : Date) : Bool :=
  a.year < b.year || (a.year == b.year &&
    (a.month < b.month || (a.month == b.month && a.day ≤ b.day)))

/-- A date comes no later than itself. -/
theorem le_refl (d : Date) : d.le d = true := by simp [le]

/-- Of two dates one comes no later than the other. -/
theorem le_total (a b : Date) : a.le b = true ∨ b.le a = true := by
  simp only [le, Bool.or_eq_true, Bool.and_eq_true, decide_eq_true_eq, beq_iff_eq]
  omega

/-- The order of the calendar is transitive. -/
theorem le_trans {a b c : Date} (first : a.le b = true) (second : b.le c = true) :
    a.le c = true := by
  simp only [le, Bool.or_eq_true, Bool.and_eq_true, decide_eq_true_eq, beq_iff_eq] at *
  omega

/-- Two dates neither of which comes later are one date. -/
theorem le_antisymm {a b : Date} (first : a.le b = true) (second : b.le a = true) : a = b := by
  obtain ⟨_, _, _, _⟩ := a
  obtain ⟨_, _, _, _⟩ := b
  simp only [le, Bool.or_eq_true, Bool.and_eq_true, decide_eq_true_eq, beq_iff_eq] at *
  rw [mk.injEq]
  omega

end Date

end RecordRules
