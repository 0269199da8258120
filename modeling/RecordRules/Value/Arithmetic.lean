import RecordRules.Fault
import RecordRules.Value.Basic

/-!
# Sums and products

A value plus or times a whole number. Numbers are added and multiplied; texts, bytes, lists and
tuples can be repeated, and take nothing but their own kind at their end.
-/

namespace RecordRules

/-- A whole number as a floating-point number. -/
def Double.ofInt (n : Int) : Except Fault Double :=
  match ofInt? n with
  | some x => .ok x
  | none => .error .intTooLargeForFloat

namespace Value

/-- The first whole number that is too large to count with. -/
def countLimit : Int := 0x8000000000000000

/-- How often a whole number has something repeated: never, if it is negative. -/
def repetitions (n : Int) : Except Fault Nat :=
  if -countLimit ≤ n ∧ n < countLimit then .ok n.toNat else .error .intTooLargeForCount

/-- Items repeated some number of times. -/
def repeated {α : Type} (items : List α) (times : Nat) : List α :=
  if items.isEmpty then [] else (List.replicate times items).flatten

/-- A value plus a whole number. -/
def plus (v : Value) (n : Int) : Except Fault Value :=
  match v with
  | int m => .ok (int (m + n))
  | bool b => .ok (int ((if b then 1 else 0) + n))
  | float x => do return float (x.add (← Double.ofInt n))
  | text _ | bytes _ | list _ | tuple _ => .error (.concatenation v.kind "int")
  | _ => .error (.operands "+" v.kind "int")

/-- A value times a whole number. -/
def times (v : Value) (n : Int) : Except Fault Value :=
  match v with
  | int m => .ok (int (m * n))
  | bool b => .ok (int ((if b then 1 else 0) * n))
  | float x => do return float (x.mul (← Double.ofInt n))
  | text s => do return text (String.ofList (repeated s.toList (← repetitions n)))
  | bytes bs => do return bytes (repeated bs (← repetitions n))
  | list items => do return list (repeated items (← repetitions n))
  | tuple items => do return tuple (repeated items (← repetitions n))
  | _ => .error (.operands "*" v.kind "int")

end Value

end RecordRules
