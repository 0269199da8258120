import Mathlib
import RecordRules.Proofs.Rule.Bound

/-!
# Whole days and points of time

A bound that accepts a value by the time of day accepts its day too as long as both are read in one
timezone, since the day is what calendar and clock show without the clock. In two timezones the one
calendar is ahead of the other at the same point of time (`Moment.lead`). A lead towards the far
side of a bound can take the day of a value beyond the day of a bound that the value has not passed
(`exists_accepted_by_time_only`), by two days at most; no other lead can (`admits_without_time`).
-/

namespace RecordRules

open Calendar

namespace Direction

/-- The way to the far side of a bound: forward where a value is to come before it. -/
def beyond : Direction → Int
  | before => 1
  | after => -1

theorem allows_of_shift {d : Direction} {value bound shift : Int}
    (allowed : d.Allows value (bound + shift)) (back : d.Allows shift 0) :
    d.Allows value bound := by
  cases d with
  | before =>
    simp only [Allows] at *
    omega
  | after =>
    simp only [Allows] at *
    omega

end Direction

namespace Moment

/-- How far the calendar and clock of a moment are ahead of those of another at one point of time. A
    moment without a timezone is read in that of the other. -/
def lead (m other : Moment) : Int :=
  match m.offset, other.offset with
  | some own, some others => own - others
  | _, _ => 0

theorem lead_of_unzoned {m : Moment} (unzoned : m.offset = none) (other : Moment) :
    m.lead other = 0 := by
  unfold lead
  rw [unzoned]

/-- Two points of time stand as what calendar and clock show once the lead is taken off. -/
theorem allows_beside_iff (d : Direction) (x y : Moment) :
    d.Allows (x.beside y) (y.beside x) ↔ d.Allows x.wall (y.wall + x.lead y) := by
  have points : x.beside y - x.wall = y.beside x - (y.wall + x.lead y) := by
    unfold beside lead
    cases x.offset <;> cases y.offset <;>
      simp only [Option.orElse, Option.getD_none, Option.getD_some] <;> omega
  cases d with
  | before =>
    simp only [Direction.Allows]
    omega
  | after =>
    simp only [Direction.Allows]
    omega

/-- Timezones are less than two days apart. -/
theorem lead_within (x y : Moment) :
    -(2 * dayLength : Int) < x.lead y ∧ x.lead y < 2 * dayLength := by
  have inRange := x.within.2
  have otherInRange := y.within.2
  cases here : x.offset <;> cases there : y.offset <;>
    simp only [lead, here, there, ZoneInRange, dayLength, second] at * <;> omega

/-- What calendars and clocks show in order, their days are in too. -/
theorem allows_ordinal {d : Direction} {x y : Moment} (allowed : d.Allows x.wall y.wall) :
    d.Allows x.date.ordinal y.date.ordinal := by
  cases d with
  | before => exact Int.ofNat_le.mpr (ordinal_le_of_wall_le allowed)
  | after => exact Int.ofNat_le.mpr (ordinal_le_of_wall_le allowed)

/-- A point of time on the near side of another is at most two days beyond it on the calendar. -/
theorem allows_ordinal_beyond {d : Direction} {x y : Moment}
    (allowed : d.Allows x.wall (y.wall + x.lead y)) :
    d.Allows x.date.ordinal (y.date.ordinal + d.beyond * 2) := by
  have apart := x.lead_within y
  have inDay := x.within.1
  have otherInDay := y.within.1
  cases d with
  | before =>
    simp only [Direction.Allows, Direction.beyond, wall, dayLength, second] at *
    omega
  | after =>
    simp only [Direction.Allows, Direction.beyond, wall, dayLength, second] at *
    omega

end Moment

theorem Value.day?_of_moment? {v : Value} {m : Moment} (time : v.moment? = some m) :
    v.day? = some m.date := by
  cases v with
  | date d =>
    cases time
    rfl
  | moment m =>
    cases time
    rfl
  | _ => cases time

namespace Bound

variable {subject : Subject} {clock : Moment} {value asReceived bound resolved : Value}
  {d : Direction}

/-- A value that is on the right side of a date by the time of day is so by its day, unless both are
    moments and the lead of the value goes to the far side. -/
theorem admits_without_time (isDate : value.isDate = true) (boundIsDate : resolved.isDate = true)
    (admitted : admits true d value resolved = true) :
    admits false d value resolved = true ∨
      ∃ x y, value = .moment x ∧ resolved = .moment y ∧ ¬d.Allows (x.lead y) 0 ∧
        d.Allows x.date.ordinal (y.date.ordinal + d.beyond * 2) := by
  obtain ⟨x, y, day, boundDay, whole⟩ | ⟨x, y, time, rfl, _⟩ :=
    days_or_moments true isDate boundIsDate
  · -- A bound without a time of day is held against days in either way.
    left
    rw [admits_days_iff day boundDay whole] at admitted
    rw [admits_days_iff day boundDay (.inl rfl)]
    exact admitted
  · rw [admits_moments_iff time, Moment.allows_beside_iff] at admitted
    by_cases near : d.Allows (x.lead y) 0
    · left
      rw [admits_days_iff (Value.day?_of_moment? time) rfl (.inl rfl)]
      exact Moment.allows_ordinal (Direction.allows_of_shift admitted near)
    · right
      refine ⟨x, y, ?_, rfl, near, Moment.allows_ordinal_beyond admitted⟩
      cases value with
      | moment m =>
        cases time
        rfl
      | date day =>
        -- A date alone is read in the timezone of the bound, so it has no lead.
        cases time
        have noLead : day.midnight.lead y = 0 := Moment.lead_of_unzoned rfl y
        rw [noLead] at near
        cases d <;> simp [Direction.Allows] at near
      | _ => cases isDate

theorem accepted_cases {withTime : Bool}
    (accepted : evaluate subject clock value asReceived bound d withTime = .ok none) :
    ∃ resolved, resolve subject clock bound value d = .ok resolved ∧
      (resolved.isBlank = true ∨ resolved.isDate = true ∧ value.isDate = true ∧
        admits withTime d value resolved = true) := by
  cases resolves : resolve subject clock bound value d with
  | error e =>
    unfold evaluate at accepted
    rw [resolves] at accepted
    cases accepted
  | ok resolved =>
    refine ⟨resolved, rfl, ?_⟩
    obtain boundIsDate | blank := isDate_or_isBlank_of_resolve resolves
    · right
      rw [evaluate_of_isDate resolves boundIsDate] at accepted
      by_cases admitted : admits withTime d value resolved = true
      · refine ⟨boundIsDate, ?_, admitted⟩
        by_contra noDate
        rw [admits_of_not_isDate (Bool.eq_false_iff.mpr noDate)] at admitted
        cases admitted
      · rw [if_neg admitted] at accepted
        exact absurd accepted rejection_ne_accepted
    · exact .inl blank

/-! ## The turn of a day in two timezones -/

/-- The first of May. -/
def mayDay : Date := ⟨2023, 5, 1, by decide⟩

/-- The day after it. -/
def dayAfter : Date := ⟨2023, 5, 2, by decide⟩

theorem ordinal_dayAfter : dayAfter.ordinal = mayDay.ordinal + 1 := by decide

/-- The last moment of the first of May in a timezone. -/
def evening (offset : Int) (inRange : ZoneInRange (some offset)) : Moment :=
  ⟨mayDay, dayLength - 1, some offset, by decide, inRange⟩

/-- The first moment of the day after it in a timezone. -/
def morning (offset : Int) (inRange : ZoneInRange (some offset)) : Moment :=
  ⟨dayAfter, 0, some offset, by decide, inRange⟩

theorem morning_wall {own others : Int} (inRange : ZoneInRange (some own))
    (otherInRange : ZoneInRange (some others)) :
    (morning own inRange).wall = (evening others otherInRange).wall + 1 := by
  have next := ordinal_dayAfter
  simp only [Moment.wall, morning, evening, dayLength, second]
  omega

/-- A lead to the far side takes some value to the next day before it has passed a bound. -/
theorem exists_accepted_by_time_only (subject : Subject) (clock : Moment) (asReceived : Value)
    {own others : Int} (inRange : ZoneInRange (some own))
    (otherInRange : ZoneInRange (some others)) (far : ¬d.Allows (own - others) 0) :
    ∃ x y : Moment, x.offset = some own ∧ y.offset = some others ∧
      evaluate subject clock (.moment x) asReceived (.moment y) d true = .ok none ∧
      evaluate subject clock (.moment x) asReceived (.moment y) d false ≠ .ok none := by
  have shown (x y : Moment) (onTime : d.Allows x.wall (y.wall + x.lead y))
      (offDay : ¬d.Allows x.date.ordinal y.date.ordinal) :
      evaluate subject clock (.moment x) asReceived (.moment y) d true = .ok none ∧
        evaluate subject clock (.moment x) asReceived (.moment y) d false ≠ .ok none := by
    have timed := decides_by_order subject clock (.moment x) asReceived (.moment y) true
    have whole := decides_by_order subject clock (.moment x) asReceived (.moment y) false
    rw [timed.moments rfl rfl rfl, whole.days rfl rfl rfl (.inl rfl),
      if_pos ((Moment.allows_beside_iff d x y).mpr onTime), if_neg offDay]
    exact ⟨rfl, rejection_ne_accepted⟩
  cases d with
  | before =>
    refine ⟨morning own inRange, evening others otherInRange, rfl, rfl, shown _ _ ?_ ?_⟩
    · have lead : (morning own inRange).lead (evening others otherInRange) = own - others := rfl
      rw [morning_wall inRange otherInRange, lead]
      simp only [Direction.Allows] at *
      omega
    · have next := ordinal_dayAfter
      simp only [Direction.Allows, morning, evening]
      omega
  | after =>
    refine ⟨evening own inRange, morning others otherInRange, rfl, rfl, shown _ _ ?_ ?_⟩
    · have lead : (evening own inRange).lead (morning others otherInRange) = own - others := rfl
      rw [morning_wall otherInRange inRange, lead]
      simp only [Direction.Allows] at *
      omega
    · have next := ordinal_dayAfter
      simp only [Direction.Allows, morning, evening]
      omega

/-- What a bound accepts by the time of day it accepts by the whole day, unless the value and what
    the bound stands for are moments and the timezone of the value leads to the far side of the
    bound; its day is then at most two days beyond. For any two timezones with such a lead there
    are a value and a bound of which only the time of day is accepted. -/
theorem whole_days_coarsen_times (subject : Subject) (clock : Moment) (asReceived : Value)
    (d : Direction) :
    (∀ value bound, evaluate subject clock value asReceived bound d true = .ok none →
      evaluate subject clock value asReceived bound d false = .ok none ∨
        ∃ x y, value = .moment x ∧ resolve subject clock bound value d = .ok (.moment y) ∧
          ¬d.Allows (x.lead y) 0 ∧ d.Allows x.date.ordinal (y.date.ordinal + d.beyond * 2)) ∧
    ∀ own others, ZoneInRange (some own) → ZoneInRange (some others) →
      ¬d.Allows (own - others) 0 →
        ∃ x y : Moment, x.offset = some own ∧ y.offset = some others ∧
          evaluate subject clock (.moment x) asReceived (.moment y) d true = .ok none ∧
          evaluate subject clock (.moment x) asReceived (.moment y) d false ≠ .ok none := by
  refine ⟨fun value bound accepted => ?_, fun own others inRange otherInRange far =>
    exists_accepted_by_time_only subject clock asReceived inRange otherInRange far⟩
  obtain ⟨resolved, resolves, blank | ⟨boundIsDate, isDate, admitted⟩⟩ := accepted_cases accepted
  · exact .inl (evaluate_of_isBlank resolves blank)
  · obtain admittedToo | ⟨x, y, isMoment, rfl, far, near⟩ :=
      admits_without_time isDate boundIsDate admitted
    · exact .inl (evaluate_of_admits resolves admittedToo)
    · exact .inr ⟨x, y, isMoment, resolves, far, near⟩

/-- An hour after midnight in a timezone fourteen hours ahead is accepted before an evening of the
    day before in universal time by the time of day, and not by the day. -/
theorem dateline_accepted_by_time_only :
    let subject : Subject := ⟨"R1", none, none, [], none⟩
    let clock : Moment := ⟨⟨2024, 6, 15, by decide⟩, 43200000000, none, by decide⟩
    let value : Value := .moment ⟨⟨2020, 1, 2, by decide⟩, 3600000000, some 50400000000, by decide⟩
    let bound : Value := .moment ⟨⟨2020, 1, 1, by decide⟩, 72000000000, some 0, by decide⟩
    value.isDate = true ∧ resolve subject clock bound value .before = .ok bound ∧
      evaluate subject clock value .null bound .before true = .ok none ∧
      evaluate subject clock value .null bound .before false =
        .ok (some (":  is not a valid value. Date cannot be after "
          ++ "2020-01-01 20:00:00+00:00")) := by
  intro subject clock value bound
  refine ⟨rfl, rfl, ?_, ?_⟩
  · cbv
  · cbv

/-- In one timezone the noon of a day that is accepted before an afternoon is accepted by its day;
    nine hours ahead the next day is one too many. -/
theorem noon_accepted_without_time :
    let subject : Subject := ⟨"A-1", none, none, [], none⟩
    let clock : Moment := ⟨⟨2024, 6, 15, by decide⟩, 0, none, by decide⟩
    let noon : Moment := ⟨⟨2024, 6, 15, by decide⟩, 43200000000, none, by decide⟩
    let bound : Value := .moment ⟨⟨2024, 6, 15, by decide⟩, 50400000000, some 7200000000, by decide⟩
    evaluate subject clock (.moment noon) .null bound .before true = .ok none ∧
      evaluate subject clock (.moment noon) .null bound .before false = .ok none ∧
      ∃ x y : Moment, x.offset = some 32400000000 ∧ y.offset = some 0 ∧
        evaluate subject clock (.moment x) .null (.moment y) .before true = .ok none ∧
        evaluate subject clock (.moment x) .null (.moment y) .before false ≠ .ok none := by
  intro subject clock noon bound
  have accepted : evaluate subject clock (.moment noon) .null bound .before true = .ok none := by
    cbv
  obtain ⟨coarsens, sharp⟩ := whole_days_coarsen_times subject clock .null .before
  refine ⟨accepted, ?_, sharp 32400000000 0 (by decide) (by decide) (by decide)⟩
  obtain whole | ⟨x, y, isNoon, resolves, far, _⟩ := coarsens _ _ accepted
  · exact whole
  · obtain rfl : noon = x := Value.moment.inj isNoon
    rw [Moment.lead_of_unzoned rfl] at far
    exact absurd (Int.le_refl 0) far

end Bound

end RecordRules
