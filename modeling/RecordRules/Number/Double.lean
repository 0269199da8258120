/-!
# Binary floating-point numbers

A double-precision number is held exactly: a finite one is a whole number of units of 2⁻¹⁰⁷⁴, the
distance between the smallest ones, so that comparing two of them compares integers. Rounding
takes a fraction to the nearest double, ties to the one with the even significand.
-/

namespace RecordRules

/-- A double-precision number. Each computation that gives no number gives one with an identity of
    its own, because such a value is equal to nothing but still is itself. -/
inductive Double where
  | nan (identity : Nat)
  | infinite (negative : Bool)
  | finite (negative : Bool) (units : Nat)
  deriving DecidableEq, Inhabited

namespace Double

/-- One, in units of the smallest positive double. -/
def one : Nat := Nat.pow 2 1074

/-- The number of units between neighbours at a magnitude: one up to 53 significant bits, then
    doubling with every further bit. -/
def spacing (units : Nat) : Nat :=
  if units < Nat.pow 2 53 then 1 else Nat.pow 2 (units.log2 - 52)

/-- A quotient rounded to the nearest whole number, a half going to the even neighbour. -/
def roundHalfEven (numerator denominator : Nat) : Nat :=
  let quotient := numerator / denominator
  let twice := 2 * (numerator % denominator)
  if twice < denominator then quotient
  else if twice > denominator then quotient + 1
  else quotient + quotient % 2

/-- The double nearest to a fraction with a sign; from 2¹⁰²⁴ on it is infinite. -/
def ofFraction (negative : Bool) (numerator denominator : Nat) : Double :=
  let scaled := numerator * one
  let step := spacing (scaled / denominator)
  let units := roundHalfEven scaled (denominator * step) * step
  if units < Nat.pow 2 2098 then .finite negative units else .infinite negative

/-- The finite doubles as signed numbers of units. -/
def signedUnits (negative : Bool) (units : Nat) : Int :=
  if negative then -(units : Int) else units

/-- The double nearest to an exact number of `1/denominator` units. -/
def ofSignedUnits (units : Int) (denominator : Nat) (negativeZero : Bool) : Double :=
  if units = 0 then .finite negativeZero 0
  else ofFraction (units < 0) units.natAbs (one * denominator)

/-- Multiplication by a whole number, rounded. -/
def scale (x : Double) (n : Nat) : Double :=
  match x with
  | .finite negative units => ofFraction negative (units * n) one
  | x => x

/-- Addition of finite doubles, rounded; anything else is kept as it is. -/
def add (x y : Double) : Double :=
  match x, y with
  | .finite a m, .finite b n => ofSignedUnits (signedUnits a m + signedUnits b n) 1 (a && b)
  | .finite _ _, y => y
  | x, _ => x

/-- Multiplication, rounded. Nothing times infinity is no number. -/
def mul (x y : Double) : Double :=
  match x, y with
  | .nan identity, _ | _, .nan identity => .nan identity
  | .finite a m, .finite b n => ofFraction (a != b) (m * n) (one * one)
  | .infinite a, .infinite b => .infinite (a != b)
  | .infinite a, .finite b n | .finite b n, .infinite a =>
    if n = 0 then .nan 0 else .infinite (a != b)

/-- The double nearest to a whole number, if it is not infinite. -/
def ofInt? (n : Int) : Option Double :=
  match ofFraction (n < 0) n.natAbs 1 with
  | .finite negative units => some (.finite negative units)
  | _ => none

/-- The same magnitude with the other sign. -/
def neg : Double → Double
  | .nan identity => .nan identity
  | .infinite negative => .infinite !negative
  | .finite negative units => .finite (!negative) units

/-- Whether a double is no number. -/
def isNaN : Double → Bool
  | .nan _ => true
  | _ => false

/-- Whether a double is a whole number. -/
def isWhole : Double → Bool
  | .finite _ units => units % one == 0
  | _ => false

end Double

end RecordRules
