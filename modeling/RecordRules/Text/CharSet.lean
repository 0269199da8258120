/-!
# Sets of characters

A set of code points is written as the increasing list of boundaries at which membership
changes, so a character belongs to the set exactly when an odd number of boundaries lies at or
below it. The tables of the character properties are such sets.
-/

namespace RecordRules.Text

/-- A set of code points, by the increasing boundaries at which membership changes. -/
structure CharSet where
  boundaries : Array Nat

namespace CharSet

/-- The number of boundaries at or below a code point, found by halving the stretch from `low`
    to `high`; the first argument bounds the number of halvings. -/
def rank (set : CharSet) (point : Nat) : Nat → Nat → Nat → Nat
  | 0, low, _ => low
  | bound + 1, low, high =>
    if low < high then
      let middle := (low + high) / 2
      if set.boundaries.getD middle 0 ≤ point then rank set point bound (middle + 1) high
      else rank set point bound low middle
    else low

/-- Membership of a character. -/
def contains (set : CharSet) (c : Char) : Bool :=
  set.rank c.toNat set.boundaries.size 0 set.boundaries.size % 2 == 1

/-- The first code point of the stretch of the set that a member lies in. -/
def startOf (set : CharSet) (c : Char) : Nat :=
  set.boundaries.getD (set.rank c.toNat set.boundaries.size 0 set.boundaries.size - 1) 0

end CharSet

end RecordRules.Text
