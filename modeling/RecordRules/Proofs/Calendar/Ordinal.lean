import RecordRules.Calendar.Moment
import Mathlib.Algebra.Order.Group.Nat

/-!
# Dates as numbers

The ordinal number of a day puts the days in the order of the calendar (`Date.le_iff_ordinal_le`),
and the day that is found for a number has that number (`Date.ordinal_of_ofOrdinal?`). So a moment
that is found for a number of microseconds shows them on its calendar and clock.
-/

namespace RecordRules

namespace Calendar

/-- Days of a year. -/
def yearLength (year : Nat) : Nat := if isLeap year then 366 else 365

theorem yearLength_eq (year : Nat) : yearLength year =
    365 + (if 4 ∣ year then 1 else 0) - (if 100 ∣ year then 1 else 0)
      + (if 400 ∣ year then 1 else 0) := by
  have leap : isLeap year = true ↔ 4 ∣ year ∧ (¬100 ∣ year ∨ 400 ∣ year) := by
    simp [isLeap, Nat.dvd_iff_mod_eq_zero]
  unfold yearLength
  rw [if_congr leap rfl rfl]
  split_ifs <;> omega

theorem daysBeforeYear_succ {year : Nat} (positive : 1 ≤ year) :
    daysBeforeYear (year + 1) = daysBeforeYear year + yearLength year := by
  obtain ⟨past, rfl⟩ := Nat.exists_eq_add_of_le' positive
  simp only [daysBeforeYear, yearLength_eq, Nat.add_sub_cancel, Nat.succ_div]
  have : past / 100 ≤ past / 4 := by omega
  split_ifs <;> omega

theorem daysBeforeMonth_succ {year month : Nat} (positive : 1 ≤ month) :
    daysBeforeMonth year (month + 1) = daysBeforeMonth year month + daysInMonth year month := by
  obtain ⟨earlier, rfl⟩ := Nat.exists_eq_add_of_le' positive
  rfl

/-- The twelve months are the year. -/
theorem daysBeforeMonth_thirteen (year : Nat) : daysBeforeMonth year 13 = yearLength year := by
  cases leap : isLeap year <;> simp [daysBeforeMonth, daysInMonth, yearLength, leap]

/-- A later year begins after the end of an earlier one. -/
theorem daysBeforeYear_of_lt {a b : Nat} (positive : 1 ≤ a) (earlier : a < b) :
    daysBeforeYear a + yearLength a ≤ daysBeforeYear b := by
  induction b, earlier using Nat.le_induction with
  | base => rw [daysBeforeYear_succ positive]
  | succ b later reached =>
    rw [daysBeforeYear_succ (by omega)]
    omega

/-- A later month begins after the end of an earlier one. -/
theorem daysBeforeMonth_of_lt (year : Nat) {a b : Nat} (positive : 1 ≤ a) (earlier : a < b) :
    daysBeforeMonth year a + daysInMonth year a ≤ daysBeforeMonth year b := by
  induction b, earlier using Nat.le_induction with
  | base => rw [daysBeforeMonth_succ positive]
  | succ b later reached =>
    rw [daysBeforeMonth_succ (by omega)]
    omega

/-- Going on to the month that a day lies in keeps the day of the year. -/
theorem daysBeforeMonth_monthFrom (year bound day : Nat) {month : Nat} (positive : 1 ≤ month) :
    daysBeforeMonth year (monthFrom year bound month day).1 + (monthFrom year bound month day).2 =
      daysBeforeMonth year month + day := by
  induction bound generalizing day month with
  | zero => rfl
  | succ bound ih =>
    rw [monthFrom]
    split
    next beyond =>
      rw [ih _ (by omega), daysBeforeMonth_succ positive]
      omega
    next => rfl

end Calendar

open Calendar

namespace Date

/-- A date lies in its year. -/
theorem daysBeforeMonth_add_day_le (d : Date) :
    daysBeforeMonth d.year d.month + d.day ≤ yearLength d.year := by
  obtain ⟨_, ⟨first, last⟩, _, within⟩ := d.real
  have ends := daysBeforeMonth_of_lt d.year first (Nat.lt_succ_of_le last)
  rw [daysBeforeMonth_thirteen] at ends
  omega

/-- What comes later has the greater number: the year decides first, then the month, then the
    day. -/
theorem ordinal_lt_of_not_le {a b : Date} (later : ¬b.le a = true) : a.ordinal < b.ordinal := by
  have order : a.year < b.year ∨ a.year = b.year ∧
      (a.month < b.month ∨ a.month = b.month ∧ a.day < b.day) := by
    simp only [le, Bool.or_eq_true, Bool.and_eq_true, decide_eq_true_eq, beq_iff_eq] at later
    omega
  unfold ordinal
  obtain year | ⟨year, month | ⟨month, day⟩⟩ := order
  · have yearEnds := daysBeforeYear_of_lt a.real.1.1 year
    have inYear := a.daysBeforeMonth_add_day_le
    have counted := b.real.2.2.1
    omega
  · have monthEnds := daysBeforeMonth_of_lt b.year a.real.2.1.1 month
    have inMonth := a.real.2.2.2
    have counted := b.real.2.2.1
    rw [year] at *
    omega
  · rw [year, month]
    omega

/-- The order of the calendar is that of the numbers of the days. -/
theorem le_iff_ordinal_le {a b : Date} : a.le b = true ↔ a.ordinal ≤ b.ordinal := by
  refine ⟨fun ordered => ?_, fun ordered => ?_⟩
  · by_cases back : b.le a = true
    · exact Nat.le_of_eq (congrArg ordinal (le_antisymm ordered back))
    · exact Nat.le_of_lt (ordinal_lt_of_not_le back)
  · by_contra later
    exact absurd (ordinal_lt_of_not_le later) (by omega)

theorem of?_eq_some_iff {year month day : Nat} {d : Date} :
    of? year month day = some d ↔ d.year = year ∧ d.month = month ∧ d.day = day := by
  unfold of?
  split
  next real =>
    rw [Option.some.injEq, eq_comm]
    obtain ⟨_, _, _, _⟩ := d
    rw [mk.injEq]
  next absent =>
    refine iff_of_false (Option.some_ne_none d).symm fun same => absent ?_
    obtain ⟨rfl, rfl, rfl⟩ := same
    exact d.real

/-- Counting the rest of a number through the months of any year gives a date with that number. -/
theorem ordinal_of_monthFrom {n : Nat} (year bound : Nat) {d : Date}
    (found : of? year (monthFrom year bound 1 (n - daysBeforeYear year)).1
      (monthFrom year bound 1 (n - daysBeforeYear year)).2 = some d) : d.ordinal = n := by
  obtain ⟨rfl, month, day⟩ := of?_eq_some_iff.mp found
  have reached := daysBeforeMonth_monthFrom d.year bound (n - daysBeforeYear d.year) (Nat.le_refl 1)
  rw [← month, ← day] at reached
  have positive := d.real.2.2.1
  have january : daysBeforeMonth d.year 1 = 0 := rfl
  unfold ordinal
  omega

/-- The date that is found for a number has that number. -/
theorem ordinal_of_ofOrdinal? {n : Nat} {d : Date} (found : ofOrdinal? n = some d) :
    d.ordinal = n :=
  ordinal_of_monthFrom (yearFrom n n ((n - 1) / 366 + 1)) 12 found

end Date

namespace Moment

/-- The moment that is found for a number of microseconds shows them, at the offset asked for. -/
theorem wall_of_ofWall? {wall : Int} {offset : Option Int} {m : Moment}
    (found : ofWall? wall offset = some m) : m.wall = wall ∧ m.offset = offset := by
  unfold ofWall? at found
  split at found
  next => cases found
  next past =>
    obtain ⟨date, day, made⟩ := Option.bind_eq_some_iff.mp found
    unfold of? at made
    split at made
    next =>
      cases made
      have parts := Nat.div_add_mod' wall.toNat dayLength
      have whole : (wall.toNat : Int) = wall := Int.toNat_of_nonneg (by omega)
      refine ⟨Eq.trans ?_ whole, rfl⟩
      rw [Moment.wall, Date.ordinal_of_ofOrdinal? day]
      exact_mod_cast parts
    next => cases made

/-- A later calendar and clock is not on an earlier day. -/
theorem ordinal_le_of_wall_le {a b : Moment} (ordered : a.wall ≤ b.wall) :
    a.date.ordinal ≤ b.date.ordinal := by
  have inDay := b.within.1
  simp only [wall, dayLength, second] at *
  omega

end Moment

end RecordRules
