import RecordRules.Proofs.Calendar.Range
import RecordRules.Proofs.Rule.Bound

/-!
# The present time

A bound on the present time reads the clock in the timezone of the value and moves it by a minute.
Calendar and clock can show every point of time from the beginning of the calendar to its end, so
neither step goes too far for a clock that is two days inside it (`Moment.FarFromEnds`). What is
compared in the end is the point of time of the value with that of the clock
(`Bound.evaluate_present`), and the timezone in which a value is written decides nothing.
-/

namespace RecordRules

open Calendar

namespace Moment

/-- The beginning of the calendar. -/
def earliest : Moment := Date.first.midnight

/-- The last point of time of the calendar. -/
def latest : Moment := ⟨Date.last, dayLength - 1, none, by decide⟩

/-- Calendar and clock can show every point of time within the calendar. -/
theorem exists_of_wall_between (wall : Int) {offset : Option Int} (inZone : ZoneInRange offset)
    (begun : earliest.wall ≤ wall) (unended : wall ≤ latest.wall) :
    ∃ m, ofWall? wall offset = some m := by
  simp only [Moment.wall, earliest, latest, Date.midnight, Date.ordinal_first, Date.ordinal_last,
    dayLength, second] at begun unended
  obtain ⟨date, found⟩ := Date.exists_of_ordinal_between (n := wall.toNat / dayLength)
    (by rw [Date.ordinal_first]; simp only [dayLength, second]; omega)
    (by rw [Date.ordinal_last]; simp only [dayLength, second]; omega)
  have inDay : wall.toNat % dayLength < dayLength := Nat.mod_lt _ (by decide)
  unfold ofWall?
  rw [if_neg (by omega), found]
  exact ⟨_, dif_pos ⟨inDay, inZone⟩⟩

/-- The point of time of a moment, which is in universal time if it has no timezone. -/
def instant (m : Moment) : Int := m.wall - m.offset.getD 0

/-- A clock in universal time, no nearer to the ends of the calendar than two days. -/
structure FarFromEnds (clock : Moment) : Prop where
  universal : clock.offset.getD 0 = 0
  begun : earliest.wall + 2 * dayLength ≤ clock.wall
  unended : clock.wall + 2 * dayLength ≤ latest.wall

/-- A timezone is less than a day ahead or behind. -/
theorem offset_within (m : Moment) :
    -(dayLength : Int) < m.offset.getD 0 ∧ m.offset.getD 0 < (dayLength : Int) := by
  have zone := m.within.2
  cases own : m.offset with
  | none => decide
  | some o =>
    rw [own] at zone
    exact zone

end Moment

namespace Bound

variable {clock m : Moment}

/-- The clock in the timezone of a moment, which keeps it inside the calendar. -/
theorem exists_clockBeside (far : clock.FarFromEnds) (m : Moment) :
    ∃ here, clockBeside clock (.moment m) = some here ∧
      here.wall = clock.wall + m.offset.getD 0 ∧
      (m.offset = none ∧ here = clock ∨ ∃ o, m.offset = some o ∧ here.offset = some o) := by
  change ∃ here, clock.movedToZoneOf? m = some here ∧ _
  cases zone : m.offset with
  | none =>
    refine ⟨clock, ?_, ?_, .inl ⟨rfl, rfl⟩⟩
    · unfold Moment.movedToZoneOf?
      rw [zone]
    · simp
  | some o =>
    have within := m.offset_within
    have inZone := m.within.2
    rw [zone] at within inZone
    simp only [Option.getD_some] at within ⊢
    obtain ⟨here, shows⟩ := Moment.exists_of_wall_between (clock.wall + o) inZone
      (by have := far.begun; omega) (by have := far.unended; omega)
    obtain ⟨wall, offset⟩ := Moment.wall_of_ofWall? shows
    refine ⟨here, ?_, wall, .inr ⟨o, rfl, offset⟩⟩
    unfold Moment.movedToZoneOf?
    rw [zone]
    dsimp only
    rwa [far.universal, Int.sub_zero]

/-- What the present time stands for beside a moment: the clock, a minute on or back, and compared
    with the moment as a point of time. -/
theorem exists_present (far : clock.FarFromEnds) (m : Moment) (d : Direction) :
    ∃ bound, present clock (.moment m) d = .ok (.moment bound) ∧
      bound.beside m - m.beside bound = clock.wall + leeway d * second - m.instant := by
  obtain ⟨here, moved, wall, zone⟩ := exists_clockBeside far m
  have within := m.offset_within
  have near : -(dayLength : Int) ≤ leeway d * second ∧ leeway d * second ≤ (dayLength : Int) := by
    cases d <;> decide
  obtain ⟨bound, shows⟩ := Moment.exists_of_wall_between
    (here.wall + leeway d * second) here.within.2
    (by have := far.begun; omega) (by have := far.unended; omega)
  obtain ⟨boundWall, boundOffset⟩ := Moment.wall_of_ofWall? shows
  refine ⟨bound, present_eq_ok_iff.mpr ⟨here, bound, moved, shows, rfl⟩, ?_⟩
  simp only [Moment.beside, Moment.instant, boundWall, boundOffset, wall]
  rcases zone with ⟨unzoned, rfl⟩ | ⟨o, own, others⟩
  · have universal := far.universal
    cases clockZone : here.offset <;> rw [clockZone] at universal <;>
      simp only [unzoned, Option.orElse, Option.getD_none, Option.getD_some] at * <;> omega
  · simp only [own, others, Option.orElse, Option.getD_some]
    omega

/-- Of what the failure of the present time says, only the value as received may not be shown. -/
theorem shown_of_rejection_present {subject : Subject} {asReceived : Value} {d : Direction}
    {e : Fault} (stops : rejection subject asReceived (.sentinel .now) d = .error e) :
    shown asReceived = .error e := by
  unfold rejection at stops
  cases received : shown asReceived with
  | error e' =>
    rw [received] at stops
    cases stops
    rfl
  | ok text =>
    rw [received] at stops
    cases stops

/-- A bound on the present time decides by the point of time of a moment. -/
theorem evaluate_present (far : clock.FarFromEnds) (subject : Subject) (m : Moment)
    (asReceived : Value) (d : Direction) :
    evaluate subject clock (.moment m) asReceived (.sentinel .now) d true =
      if d.Allows m.instant (clock.wall + leeway d * second) then .ok none
      else rejection subject asReceived (.sentinel .now) d := by
  obtain ⟨bound, resolves, apart⟩ := exists_present far m d
  have decides := (decides_by_order subject clock (.moment m) asReceived (.sentinel .now)
    true).moments resolves rfl rfl
  have same : d.Allows (m.beside bound) (bound.beside m) ↔
      d.Allows m.instant (clock.wall + leeway d * second) := by
    cases d <;> simp only [Direction.Allows] <;> omega
  rw [decides, if_congr same rfl rfl]

theorem evaluate_present_eq_none_iff (far : clock.FarFromEnds) {subject : Subject}
    {asReceived : Value} {d : Direction} :
    evaluate subject clock (.moment m) asReceived (.sentinel .now) d true = .ok none ↔
      d.Allows m.instant (clock.wall + leeway d * second) := by
  rw [evaluate_present far]
  split
  next allowed => exact iff_of_true rfl allowed
  next beyond => exact iff_of_false rejection_ne_accepted beyond

/-- A bound on the present time, under a clock two days inside the calendar, accepts a moment just
    when its point of time is no more than a minute beyond the clock. So moments at one point of
    time are judged alike, whatever their timezones, and nothing stops the evaluation but a value as
    received that cannot be shown. -/
theorem present_window_is_one_instant (subject : Subject) (clock m : Moment) (asReceived : Value)
    (far : clock.FarFromEnds) :
    let held := fun m asReceived d =>
      evaluate subject clock (.moment m) asReceived (.sentinel .now) d true
    (held m asReceived .before = .ok none ↔ m.instant ≤ clock.wall + 60 * second) ∧
    (held m asReceived .after = .ok none ↔ clock.wall - 60 * second ≤ m.instant) ∧
    (∀ other : Moment, other.instant = m.instant → ∀ d,
      held other asReceived d = held m asReceived d ∧
      ∀ otherReceived, held other otherReceived d = .ok none ↔ held m asReceived d = .ok none) ∧
    (∀ d e, held m asReceived d = .error e → shown asReceived = .error e) := by
  intro held
  refine ⟨evaluate_present_eq_none_iff far, ?_, ?_, ?_⟩
  · refine (evaluate_present_eq_none_iff far).trans ?_
    simp only [Direction.Allows, leeway, grace]
    omega
  · intro other sameInstant d
    refine ⟨?_, fun otherReceived => ?_⟩
    · change evaluate _ _ _ _ _ _ _ = evaluate _ _ _ _ _ _ _
      rw [evaluate_present far, evaluate_present far, sameInstant]
    · rw [evaluate_present_eq_none_iff far, evaluate_present_eq_none_iff far, sameInstant]
  · intro d e stops
    change evaluate _ _ _ _ _ _ _ = _ at stops
    rw [evaluate_present far] at stops
    split at stops
    · cases stops
    · exact shown_of_rejection_present stops

/-- Half a minute past noon in universal time is not too late at noon, written with or without a
    timezone; a minute later it is. -/
theorem half_a_minute_past_noon :
    let day : Date := ⟨2024, 6, 15, by decide⟩
    let clock : Moment := ⟨day, 43200000000, none, by decide⟩
    let subject : Subject := ⟨"A-1", none, none, [], none⟩
    let held := fun m =>
      evaluate subject clock (.moment m) .null (.sentinel .now) .before true
    clock.FarFromEnds ∧ held ⟨day, 43230000000, none, by decide⟩ = .ok none ∧
      held ⟨day, 50430000000, some 7200000000, by decide⟩ = .ok none ∧
      held ⟨day, 50490000000, some 7200000000, by decide⟩ ≠ .ok none := by
  intro day clock subject held
  have far : clock.FarFromEnds := ⟨rfl, by decide, by decide⟩
  obtain ⟨before, _, alike, _⟩ := present_window_is_one_instant subject clock
    ⟨day, 43230000000, none, by decide⟩ .null far
  obtain ⟨late, _⟩ := present_window_is_one_instant subject clock
    ⟨day, 50490000000, some 7200000000, by decide⟩ .null far
  have early : held ⟨day, 43230000000, none, by decide⟩ = .ok none := before.mpr (by decide)
  obtain ⟨same, _⟩ := alike ⟨day, 50430000000, some 7200000000, by decide⟩ (by decide) .before
  exact ⟨far, early, same.trans early, fun accepted => absurd (late.mp accepted) (by decide)⟩

end Bound

end RecordRules
