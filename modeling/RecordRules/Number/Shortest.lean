import RecordRules.Number.Double

/-!
# The shortest decimal text of a double

Of the decimals that round to a double, the ones with the fewest digits are taken, and of those
the nearest. The text is positional for exponents from -4 to 15 and keeps a fraction of zero;
otherwise it has an exponent of at least two digits and a sign.
-/

namespace RecordRules

namespace Double

/-- The interval of values that round to a positive double, in quarter units: its ends, and
    whether they belong to it. -/
structure Rounding where
  low : Nat
  high : Nat
  closed : Bool

/-- The interval around a number of units. Just above a power of two the lower neighbour is half
    as far away. -/
def rounding (units : Nat) : Rounding :=
  let step := spacing units
  let below := if step ≤ 1 || Nat.pow 2 units.log2 ≠ units then 2 * step else step
  { low := 4 * units - below, high := 4 * units + 2 * step, closed := units / step % 2 == 0 }

/-- Whether a fraction of quarter units lies in the interval. -/
def Rounding.holds (r : Rounding) (numerator denominator : Nat) : Bool :=
  if r.closed then r.low * denominator ≤ numerator && numerator ≤ r.high * denominator
  else r.low * denominator < numerator && numerator < r.high * denominator

/-- A decimal `digits · 10^exponent`. -/
structure Decimal where
  digits : Nat
  exponent : Int
  deriving DecidableEq

/-- A power of ten as a fraction. -/
def powerOfTen (exponent : Int) : Nat × Nat :=
  if exponent < 0 then (1, Nat.pow 10 exponent.natAbs) else (Nat.pow 10 exponent.natAbs, 1)

/-- The decimal of the grid `10^exponent` that is nearest to a positive double and rounds to it. -/
def onGrid (units : Nat) (exponent : Int) : Option Decimal :=
  let (up, down) := powerOfTen exponent
  let unit := 4 * one * up
  let value := 4 * units * down
  let lower := value / unit
  let fits (d : Nat) : Bool := (rounding units).holds (d * unit) down
  let nearLower := 2 * (value % unit) < unit || (2 * (value % unit) == unit && lower % 2 == 0)
  let near := if nearLower then lower else lower + 1
  let far := if nearLower then lower + 1 else lower
  if near ≠ 0 && fits near then some ⟨near, exponent⟩
  else if far ≠ 0 && fits far then some ⟨far, exponent⟩
  else none

/-- The exponent of the first digit of a positive double: the greatest `e` with `10^e` at most the
    value. -/
def leadingExponent (units : Nat) : Int :=
  if one ≤ units then ((Nat.toDigits 10 (units / one)).length : Int) - 1
  else -(((Nat.toDigits 10 ((one + units - 1) / units - 1)).length : Int))

/-- The first grid with a decimal that rounds to the double, from coarse to fine. -/
def shortestFrom (units : Nat) (exponent : Int) : Nat → Decimal
  | 0 => ⟨0, exponent⟩
  | bound + 1 => (onGrid units exponent).getD (shortestFrom units (exponent - 1) bound)

/-- Without zeros at the end of its digits; the first argument bounds their number. -/
def Decimal.trim : Nat → Decimal → Decimal
  | 0, d => d
  | bound + 1, d =>
    if d.digits ≠ 0 && d.digits % 10 == 0 then trim bound ⟨d.digits / 10, d.exponent + 1⟩ else d

/-- The shortest decimal that rounds to a positive double. -/
def shortest (units : Nat) : Decimal :=
  (shortestFrom units (leadingExponent units + 1) 20).trim 20

/-- The digits with a point, or with an exponent outside of -4 to 15. -/
def Decimal.text (d : Decimal) : List Char :=
  let digits := Nat.toDigits 10 d.digits
  let point : Int := d.exponent + digits.length
  if -4 < point && point ≤ 16 then
    if point ≤ 0 then '0' :: '.' :: (List.replicate point.natAbs '0' ++ digits)
    else
      let whole := digits.take point.toNat
      let fraction := digits.drop point.toNat
      whole ++ List.replicate (point.toNat - digits.length) '0' ++ '.' ::
        (if fraction.isEmpty then ['0'] else fraction)
  else
    let exponent := point - 1
    let written := Nat.toDigits 10 exponent.natAbs
    let mantissa := digits.take 1 ++ (if digits.length ≤ 1 then [] else '.' :: digits.drop 1)
    mantissa ++ 'e' :: (if exponent < 0 then '-' else '+') ::
      (List.replicate (2 - written.length) '0' ++ written)

/-- The text of a double. -/
def text : Double → String
  | .nan _ => "nan"
  | .infinite negative => if negative then "-inf" else "inf"
  | .finite negative units =>
    let body := if units = 0 then ['0', '.', '0'] else (shortest units).text
    String.ofList (if negative then '-' :: body else body)

end Double

end RecordRules
