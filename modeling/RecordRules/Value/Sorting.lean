import RecordRules.Value.Order

/-!
# Sorting

A list is sorted in place: the members that stand in order at its beginning stay together, and each
later member is put among them by halves. Members that cannot be ordered stop the sorting, and the
list is left as far as it was sorted. A list of more than 63 members is sorted in parts that are then
merged; that comes to the same list, if all members can be compared and "less" orders them.
-/

namespace RecordRules

namespace Value

/-- Puts a value among values in order, behind those that it is not less than. -/
def insertInOrder (v : Value) (sorted : List Value) : Except Fault (List Value) :=
  match _ : sorted.drop (sorted.length / 2) with
  | [] => .ok [v]
  | middle :: upper => do
    let lower := sorted.take (sorted.length / 2)
    if ← ordered .less v middle then return (← insertInOrder v lower) ++ middle :: upper
    else return lower ++ middle :: (← insertInOrder v upper)
termination_by sorted.length
decreasing_by
  all_goals
    have length := congrArg List.length ‹sorted.drop _ = _›
    simp only [List.length_drop, List.length_cons, List.length_take] at length ⊢
    omega

/-- Puts values among values in order, one after another; what is left if one cannot be put. -/
def insertAllInOrder (sorted : List Value) : List Value → List Value × Except Fault Unit
  | [] => (sorted, .ok ())
  | v :: rest =>
    match insertInOrder v sorted with
    | .ok longer => insertAllInOrder longer rest
    | .error e => (sorted ++ v :: rest, .error e)

/-- The values that go on falling, or never falling, after a last one, and the others. -/
def run (falling : Bool) (last : Value) :
    List Value → Except Fault (List Value × List Value)
  | [] => .ok ([], [])
  | v :: rest => do
    if (← ordered .less v last) == falling then
      let (more, others) ← run falling v rest
      return (v :: more, others)
    else return ([], v :: rest)

/-- The values in order at the beginning of a list of two values or more, and the others. Falling
    values are turned round. -/
def openingRun (first second : Value) (rest : List Value) :
    Except Fault (List Value × List Value) := do
  let falling ← ordered .less second first
  let (more, others) ← run falling second rest
  let opening := first :: second :: more
  return (if falling then opening.reverse else opening, others)

/-- What is left of a list that is sorted, and whether it could be. -/
def sort : List Value → List Value × Except Fault Unit
  | first :: second :: rest =>
    match openingRun first second rest with
    | .ok (opening, others) => insertAllInOrder opening others
    | .error e => (first :: second :: rest, .error e)
  | short => (short, .ok ())

end Value

end RecordRules
