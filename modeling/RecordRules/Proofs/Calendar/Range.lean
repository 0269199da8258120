import RecordRules.Proofs.Calendar.Ordinal

/-!
# The range of the calendar

The days of the calendar have the numbers from 1 to that of its last day, and every number in that
range is found (`Date.exists_of_ordinal_between`): the search for the year and the one for the month
both have steps enough.
-/

namespace RecordRules

namespace Calendar

/-- The search for a year goes on only to years that begin before the day. -/
theorem daysBeforeYear_yearFrom_lt (ordinal bound : Nat) {year : Nat}
    (begun : daysBeforeYear year < ordinal) :
    daysBeforeYear (yearFrom ordinal bound year) < ordinal := by
  induction bound generalizing year with
  | zero => exact begun
  | succ bound ih =>
    rw [yearFrom]
    split
    next next => exact ih next
    next => exact begun

/-- The search for a year ends in the year of the day if its steps take it that far. -/
theorem le_daysBeforeYear_yearFrom (ordinal bound : Nat) {year : Nat}
    (near : ordinal ≤ daysBeforeYear (year + bound + 1)) :
    ordinal ≤ daysBeforeYear (yearFrom ordinal bound year + 1) := by
  induction bound generalizing year with
  | zero => exact near
  | succ bound ih =>
    rw [yearFrom]
    split
    next =>
      refine ih ?_
      rwa [Nat.add_right_comm year 1 bound]
    next last => exact Nat.le_of_not_lt last

/-- A number that is counted on through the rest of a year comes to a month and a day of it. -/
theorem monthFrom_exists (year bound : Nat) {month day : Nat} (first : 1 ≤ month) (start : 1 ≤ day)
    (rest : month + bound = 13) (inYear : daysBeforeMonth year month + day ≤ yearLength year) :
    let found := monthFrom year bound month day
    (1 ≤ found.1 ∧ found.1 ≤ 12) ∧ 1 ≤ found.2 ∧ found.2 ≤ daysInMonth year found.1 := by
  induction bound generalizing month day with
  | zero =>
    obtain rfl : month = 13 := rest
    rw [daysBeforeMonth_thirteen] at inYear
    omega
  | succ bound ih =>
    rw [monthFrom]
    split
    next beyond =>
      refine ih (by omega) (by omega) (by omega) ?_
      rw [daysBeforeMonth_succ first]
      omega
    next within => exact ⟨⟨first, by omega⟩, start, Nat.le_of_not_lt within⟩

end Calendar

open Calendar

namespace Date

/-- The first day of the calendar. -/
def first : Date := ⟨1, 1, 1, by decide⟩

/-- The last day of the calendar. -/
def last : Date := ⟨9999, 12, 31, by decide⟩

theorem ordinal_first : first.ordinal = 1 := rfl

theorem ordinal_last : last.ordinal = 3652059 := rfl

/-- Every number from that of the first day to that of the last day is the number of a day. -/
theorem exists_of_ordinal_between {n : Nat} (positive : first.ordinal ≤ n)
    (inRange : n ≤ last.ordinal) : ∃ d, ofOrdinal? n = some d := by
  rw [ordinal_first] at positive
  rw [ordinal_last] at inRange
  have begun : daysBeforeYear (yearFrom n n ((n - 1) / 366 + 1)) < n := by
    refine daysBeforeYear_yearFrom_lt n n ?_
    simp only [daysBeforeYear]
    omega
  have ends : n ≤ daysBeforeYear (yearFrom n n ((n - 1) / 366 + 1) + 1) := by
    refine le_daysBeforeYear_yearFrom n n ?_
    simp only [daysBeforeYear]
    omega
  unfold ofOrdinal?
  generalize yearFrom n n ((n - 1) / 366 + 1) = year at begun ends
  have known : 1 ≤ year ∧ year ≤ 9999 := by
    simp only [daysBeforeYear] at begun ends
    omega
  have january : daysBeforeMonth year 1 = 0 := rfl
  rw [daysBeforeYear_succ known.1] at ends
  have real : Exists year (monthFrom year 12 1 (n - daysBeforeYear year)).1
      (monthFrom year 12 1 (n - daysBeforeYear year)).2 :=
    ⟨known, monthFrom_exists year 12 (Nat.le_refl 1) (by omega) rfl (by omega)⟩
  exact ⟨_, dif_pos real⟩

end Date

end RecordRules
