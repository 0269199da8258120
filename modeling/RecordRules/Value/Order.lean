import RecordRules.Fault
import RecordRules.Value.Equality

/-!
# The order of values

Numbers are ordered with numbers, texts with texts by code points, bytes with bytes, dates with
dates, moments with moments of the same kind of timezone; lists and tuples by their first
difference; sets by inclusion. No other two values can be ordered.
-/

namespace RecordRules

/-- Whether a relation holds of two values in a given order. -/
def Relation.admits : Relation → Ordering → Bool
  | .less, o => o == .lt
  | .lessOrEqual, o => o != .gt
  | .greater, o => o == .gt
  | .greaterOrEqual, o => o != .lt

/-- The order of two lists of bytes by their first difference. -/
def compareBytes : List UInt8 → List UInt8 → Ordering
  | [], [] => .eq
  | [], _ => .lt
  | _, [] => .gt
  | a :: as, b :: bs =>
    if a.toNat < b.toNat then .lt else if b.toNat < a.toNat then .gt else compareBytes as bs

/-- The order of two texts by code points. -/
def compareText (s t : String) : Ordering :=
  if s < t then .lt else if s == t then .eq else .gt

/-- The order of two dates. -/
def compareDate (a b : Date) : Ordering :=
  if a == b then .eq else if a.le b then .lt else .gt

namespace Value

/-- Whether a relation holds of two sets, which are ordered by inclusion. -/
def setsOrdered (r : Relation) (xs ys : List Value) : Bool :=
  match r with
  | .less => xs.length < ys.length && allWithin xs ys
  | .lessOrEqual => xs.length ≤ ys.length && allWithin xs ys
  | .greater => ys.length < xs.length && allWithin ys xs
  | .greaterOrEqual => ys.length ≤ xs.length && allWithin ys xs

/-- Whether a relation holds of two values that contain no others. -/
def atomsOrdered (r : Relation) (a b : Value) : Except Fault Bool :=
  match a.quantity?, b.quantity? with
  | some x, some y => .ok ((x.compare? y).any r.admits)
  | _, _ =>
    match a.members?, b.members? with
    | some xs, some ys => .ok (setsOrdered r xs ys)
    | _, _ =>
      match a, b with
      | text s, text t => .ok (r.admits (compareText s t))
      | bytes x, bytes y => .ok (r.admits (compareBytes x y))
      | date x, date y => .ok (r.admits (compareDate x y))
      | date _, moment _ | moment _, date _ => .error .dateWithMoment
      | moment x, moment y =>
        match x.comparable? y with
        | some (m, n) => .ok (r.admits (compare m n))
        | none => .error .momentZones
      | a, b => .error (.unordered r a.kind b.kind)

mutual

/-- Whether a relation holds of two values; a fault if they cannot be ordered. -/
def ordered (r : Relation) : Value → Value → Except Fault Bool
  | list xs, list ys => listsOrdered r xs ys
  | tuple xs, tuple ys => listsOrdered r xs ys
  | a, b => atomsOrdered r a b

/-- The relation of the first two items that differ, or else of the lengths. -/
def listsOrdered (r : Relation) : List Value → List Value → Except Fault Bool
  | [], [] => .ok (r.admits .eq)
  | [], _ => .ok (r.admits .lt)
  | _, [] => .ok (r.admits .gt)
  | x :: xs, y :: ys => if same x y then listsOrdered r xs ys else ordered r x y

end

end Value

end RecordRules
