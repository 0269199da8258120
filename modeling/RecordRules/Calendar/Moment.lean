import RecordRules.Calendar.Date

/-!
# Moments

A date with a time of day to the microsecond, and with the offset of its timezone from universal
time where it has one. Two moments with offsets are compared as instants; without, as they are.

The offset is fixed. Timezones whose offset changes in the course of a year are outside, and with them
the second occurrence of an hour that the clock shows twice.
-/

namespace RecordRules

namespace Calendar

/-- Microseconds in a second. -/
def second : Nat := 1000000

/-- Microseconds in a day. -/
def dayLength : Nat := 86400 * second

/-- An offset of less than a day. -/
def ZoneInRange (offset : Option Int) : Prop :=
  match offset with
  | none => True
  | some o => -(dayLength : Int) < o ∧ o < (dayLength : Int)

instance (offset : Option Int) : Decidable (ZoneInRange offset) := by
  cases offset <;> unfold ZoneInRange <;> infer_instance

end Calendar

open Calendar

/-- A point of time as a calendar and a clock show it. -/
structure Moment where
  date : Date
  /-- Microseconds since midnight. -/
  time : Nat
  /-- Microseconds that the clock is ahead of universal time. -/
  offset : Option Int
  within : time < dayLength ∧ ZoneInRange offset
  deriving DecidableEq

namespace Moment

/-- The moment with a date, a time of day and an offset, if they are in range. -/
def of? (date : Date) (time : Nat) (offset : Option Int) : Option Moment :=
  if within : time < dayLength ∧ ZoneInRange offset then some ⟨date, time, offset, within⟩
  else none

/-- Whole hours, minutes and seconds with microseconds as a time of day. -/
def clockTime? (hour minute seconds microsecond : Nat) : Option Nat :=
  if hour < 24 && minute < 60 && seconds < 60 && microsecond < second then
    some (((hour * 60 + minute) * 60 + seconds) * second + microsecond)
  else none

/-- The hours that the clock shows. -/
def hour (m : Moment) : Nat := m.time / (3600 * second)

/-- The minutes that the clock shows. -/
def minute (m : Moment) : Nat := m.time / (60 * second) % 60

/-- The seconds that the clock shows. -/
def seconds (m : Moment) : Nat := m.time / second % 60

/-- The microseconds past the second. -/
def microsecond (m : Moment) : Nat := m.time % second

/-- Microseconds on the calendar and the clock, whatever the offset. -/
def wall (m : Moment) : Int := m.date.ordinal * dayLength + m.time

/-- The point of time in universal time, of a moment that has an offset. -/
def instant? (m : Moment) : Option Int := m.offset.map (m.wall - ·)

/-- The moment at which calendar and clock show a number of microseconds. -/
def ofWall? (wall : Int) (offset : Option Int) : Option Moment :=
  if wall < 0 then none
  else do
    let date ← Date.ofOrdinal? (wall.toNat / dayLength)
    of? date (wall.toNat % dayLength) offset

/-- The same calendar and clock in the timezone of another moment. -/
def readInZoneOf (m like : Moment) : Moment :=
  ⟨m.date, m.time, like.offset, m.within.1, like.within.2⟩

/-- The beginning of a day in the timezone of a moment. -/
def midnight (date : Date) (like : Moment) : Moment :=
  ⟨date, 0, like.offset, by decide, like.within.2⟩

/-- The same point of time in the timezone of another moment. Where one of them has no timezone,
    universal time stands in for it, and a result without one keeps calendar and clock. -/
def movedToZoneOf? (m like : Moment) : Option Moment :=
  match like.offset with
  | none => some m
  | some target => ofWall? (m.wall - m.offset.getD 0 + target) (some target)

/-- A moment some seconds later, or earlier for a negative number. -/
def plusSeconds? (m : Moment) (n : Int) : Option Moment :=
  ofWall? (m.wall + n * second) m.offset

/-- The instants, or calendar and clock where neither has an offset; nothing for one of each. -/
def comparable? (a b : Moment) : Option (Int × Int) :=
  match a.instant?, b.instant? with
  | some x, some y => some (x, y)
  | none, none => some (a.wall, b.wall)
  | _, _ => none

end Moment

end RecordRules
