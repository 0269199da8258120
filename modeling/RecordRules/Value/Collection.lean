import RecordRules.Text.Category
import RecordRules.Value.Equality

/-!
# Collections and blankness

Lists, tuples, sets, names of a mapping and ranges are collections; texts, bytes and mappings
count as one value. Flattening gives the values of a collection that are no collections, from
left to right and at every depth.
-/

namespace RecordRules

namespace Value

/-- The members of a collection in order. -/
def elements? : Value → Option (List Value)
  | list items | tuple items | set items | keys items => some items
  | range p => some (p.members.map int)
  | _ => none

/-- Whether a value is a collection of values. -/
def isCollection : Value → Bool
  | list _ | tuple _ | set _ | keys _ | range _ => true
  | _ => false

mutual

/-- The values within a value that are no collections, in order. -/
def flatten : Value → List Value
  | list items => flattenAll items
  | tuple items => flattenAll items
  | set items => flattenAll items
  | keys items => flattenAll items
  | range p => p.members.map int
  | v => [v]

/-- The values within each of several values, one after another. -/
def flattenAll : List Value → List Value
  | [] => []
  | v :: rest => flatten v ++ flattenAll rest

end

/-- The members of a collection, a value that is none alone, and nothing for no value. -/
def asSequence : Value → List Value
  | null => []
  | v => v.elements?.getD [v]

/-- Whether a value is blank: nothing, false, a text of white space, or a list, tuple, set or
    mapping without entries. Zero is not blank, and neither is an empty range. -/
def isBlank : Value → Bool
  | null => true
  | bool b => !b
  | text s => Text.isBlank s
  | list items | tuple items | set items | keys items => items.isEmpty
  | dict entries => entries.isEmpty
  | _ => false

/-- Whether a value is not blank. -/
def isPresent (v : Value) : Bool := !v.isBlank

/-- The leaves of several values are those of each of them in turn. -/
theorem flattenAll_eq_flatMap (values : List Value) :
    flattenAll values = values.flatMap flatten := by
  induction values with
  | nil => rfl
  | cons v rest ih => simp [flattenAll, ih]

/-- The collections are the values that have elements. -/
theorem isCollection_iff_elements? (v : Value) :
    v.isCollection = v.elements?.isSome := by
  cases v <;> rfl

end Value

end RecordRules
