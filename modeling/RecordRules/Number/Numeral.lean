import RecordRules.Number.Double

/-!
# Reading numerals

Whole numbers in a base, and decimal numerals as the double nearest to what they say.
-/

namespace RecordRules

namespace Numeral

/-- The value of a digit in bases up to sixteen. -/
def digitValue (c : Char) : Option Nat :=
  if '0' ≤ c && c ≤ '9' then some (c.toNat - '0'.toNat)
  else if 'a' ≤ c && c ≤ 'f' then some (c.toNat - 'a'.toNat + 10)
  else if 'A' ≤ c && c ≤ 'F' then some (c.toNat - 'A'.toNat + 10)
  else none

/-- A decimal digit of ASCII. -/
def isDigit (c : Char) : Bool := '0' ≤ c && c ≤ '9'

/-- The value of digits in a base, most significant first, after a value read so far. -/
def valueFrom (base : Nat) : Nat → List Char → Option Nat
  | sofar, [] => some sofar
  | sofar, c :: rest =>
    match digitValue c with
    | some d => if d < base then valueFrom base (sofar * base + d) rest else none
    | none => none

/-- The value of one or more digits in a base. -/
def natural? (base : Nat) (cs : List Char) : Option Nat :=
  if cs.isEmpty then none else valueFrom base 0 cs

/-- A sign, if there is one, as "negative", and the rest. -/
def sign : List Char → Bool × List Char
  | '-' :: rest => (true, rest)
  | '+' :: rest => (false, rest)
  | rest => (false, rest)

/-- A whole number with an optional sign. -/
def integer? (base : Nat) (cs : List Char) : Option Int :=
  let (negative, digits) := sign cs
  (natural? base digits).map fun n => if negative then -(n : Int) else n

/-- The exponent of a decimal numeral: nothing, or `e` and a whole number. -/
def exponent? : List Char → Option Int
  | [] => some 0
  | c :: rest => if c == 'e' || c == 'E' then integer? 10 rest else none

/-- A decimal numeral without a sign, as the nearest double. -/
def decimal? (negative : Bool) (cs : List Char) : Option Double :=
  let whole := cs.takeWhile isDigit
  let rest := cs.dropWhile isDigit
  let (fraction, tail) :=
    match rest with
    | '.' :: r => (r.takeWhile isDigit, r.dropWhile isDigit)
    | r => ([], r)
  if whole.isEmpty && fraction.isEmpty then none
  else do
    let digits ← natural? 10 (whole ++ fraction)
    let written ← exponent? tail
    let exponent := written - fraction.length
    if digits = 0 then some (.finite negative 0)
    else if 400 < exponent then some (.infinite negative)
    else if exponent < -(400 + (whole ++ fraction).length : Int) then some (.finite negative 0)
    else if exponent < 0 then some (.ofFraction negative digits (Nat.pow 10 exponent.natAbs))
    else some (.ofFraction negative (digits * Nat.pow 10 exponent.natAbs) 1)

/-- A double: a decimal numeral, `inf` or `nan` with an optional sign; `identity` is that of the
    result if it is no number. -/
def double? (identity : Nat) (cs : List Char) : Option Double :=
  let (negative, body) := sign cs
  if body == ['i', 'n', 'f'] then some (.infinite negative)
  else if body == ['n', 'a', 'n'] then some (.nan identity)
  else decimal? negative body

end Numeral

end RecordRules
