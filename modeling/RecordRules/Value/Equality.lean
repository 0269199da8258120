import RecordRules.Value.Basic

/-!
# Equality of values

Numbers are equal by what they amount to, whether they are written as whole numbers, truth values
or floating-point numbers; collections of one kind by their contents; moments with a timezone by
their instant; computed operands and objects by identity. A value that is no number is equal to
nothing, but collections recognise it as itself, so there are two relations: `same`, which is
reflexive, and `equals`.
-/

namespace RecordRules

/-- What a number amounts to: a whole number of units of 2⁻¹⁰⁷⁴, or none. -/
inductive Quantity where
  | nan (identity : Nat)
  | infinite (negative : Bool)
  | finite (units : Int)
  deriving DecidableEq

namespace Quantity

/-- A whole number. -/
def ofInt (n : Int) : Quantity := .finite (n * (Double.one : Int))

/-- A floating-point number; the two zeros amount to the same. -/
def ofDouble : Double → Quantity
  | .nan identity => .nan identity
  | .infinite negative => .infinite negative
  | .finite negative units => .finite (Double.signedUnits negative units)

/-- Whether there is no number. -/
def isNaN : Quantity → Bool
  | .nan _ => true
  | _ => false

/-- The order of numbers; none for what is no number. -/
def compare? : Quantity → Quantity → Option Ordering
  | .nan _, _ | _, .nan _ => none
  | .infinite a, .infinite b =>
    some (if a == b then .eq else if a then .lt else .gt)
  | .infinite a, .finite _ => some (if a then .lt else .gt)
  | .finite _, .infinite b => some (if b then .gt else .lt)
  | .finite m, .finite n => some (compare m n)

end Quantity

namespace Value

/-- What a value amounts to as a number. -/
def quantity? : Value → Option Quantity
  | bool b => some (.ofInt (if b then 1 else 0))
  | int n => some (.ofInt n)
  | float x => some (.ofDouble x)
  | _ => none

/-- The members of a value that is compared as a set. -/
def members? : Value → Option (List Value)
  | set members => some members
  | keys names => some names
  | _ => none

/-- Sameness of values that contain no others. -/
def sameAtom : Value → Value → Bool
  | null, null => true
  | text s, text t => s == t
  | bytes a, bytes b => a == b
  | range p, range q => p.agrees q
  | date a, date b => a == b
  | moment a, moment b => (a.comparable? b).any fun (x, y) => x == y
  | sentinel a, sentinel b => a == b
  | pattern p, pattern q => p.source == q.source
  | computed a _, computed b _ => a == b
  | object a _ _, object b _ _ => a == b
  | a, b =>
    match a.quantity?, b.quantity? with
    | some x, some y => x == y
    | _, _ => false

mutual

/-- Sameness: equality, or identity of what is no number. -/
def same : Value → Value → Bool
  | list xs, list ys => sameLists xs ys
  | tuple xs, tuple ys => sameLists xs ys
  | set xs, other | keys xs, other =>
    match other.members? with
    | some ys => xs.length == ys.length && allWithin xs ys
    | none => false
  | dict xs, dict ys => xs.length == ys.length && entriesWithin xs ys
  | field m, field n => same m n
  | method m, method n => same m n
  | a, b => sameAtom a b

/-- Sameness item by item. -/
def sameLists : List Value → List Value → Bool
  | [], [] => true
  | x :: xs, y :: ys => same x y && sameLists xs ys
  | _, _ => false

/-- Whether each of the first is the same as one of the second. -/
def allWithin : List Value → List Value → Bool
  | [], _ => true
  | x :: xs, ys => (ys.any fun y => same x y) && allWithin xs ys

/-- Whether each of the first entries is the same as one of the second. -/
def entriesWithin : List (Value × Value) → List (Value × Value) → Bool
  | [], _ => true
  | (k, v) :: xs, ys => (ys.any fun (l, w) => same k l && same v w) && entriesWithin xs ys

end

/-- Whether a value is no number. -/
def isNaN (v : Value) : Bool := v.quantity?.any (·.isNaN)

/-- Equality: sameness of values other than what is no number. -/
def equals (a b : Value) : Bool := same a b && !a.isNaN

/-- Whether a list holds a value. -/
def memberOf (v : Value) (values : List Value) : Bool := values.any fun x => same x v

/-- Nothing but a text is the same as it. -/
theorem same_text_iff (s : String) (v : Value) : same (text s) v = true ↔ text s = v := by
  cases v <;> simp [same, sameAtom, quantity?]

end Value

end RecordRules
