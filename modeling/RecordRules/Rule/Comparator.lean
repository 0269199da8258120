import RecordRules.Rule.Operand
import RecordRules.Value.Order

/-!
# Comparators

The comparisons that a must-be rule can ask for. A comparison that the kinds of the two values
rule out does not hold; it leaves a note. An operand that stands for nothing satisfies every
comparison.
-/

namespace RecordRules

/-- A comparison of a value with an operand. -/
inductive Comparator where
  | equalTo
  | greaterThan
  | greaterOrEqualTo
  | lessThan
  | lessOrEqualTo
  | notEqualTo
  | matching
  deriving DecidableEq

namespace Comparator

/-- All comparisons. -/
def all : List Comparator :=
  [equalTo, greaterThan, greaterOrEqualTo, lessThan, lessOrEqualTo, notEqualTo, matching]

/-- The option that asks for a comparison. -/
def name : Comparator → String
  | equalTo => "equal_to"
  | greaterThan => "greater_than"
  | greaterOrEqualTo => "greater_or_equal_to"
  | lessThan => "less_than"
  | lessOrEqualTo => "less_or_equal_to"
  | notEqualTo => "not_equal_to"
  | matching => "matching"

/-- The words for a comparison in messages. -/
def words : Comparator → String
  | equalTo => "equal to"
  | greaterThan => "greater than"
  | greaterOrEqualTo => "greater or equal to"
  | lessThan => "less than"
  | lessOrEqualTo => "less or equal to"
  | notEqualTo => "not equal to"
  | matching => "matching"

/-- The comparison that an option asks for. -/
def ofKey? : Value → Option Comparator
  | .text s => all.find? fun c => c.name == s
  | _ => none

/-- Whether a comparison holds of two values; a fault if their kinds rule it out. -/
def holds (c : Comparator) (value operand : Value) : Except Fault Bool :=
  match c with
  | equalTo => .ok (value.equals operand)
  | notEqualTo => .ok !(value.equals operand)
  | greaterThan => Value.ordered .greater value operand
  | greaterOrEqualTo => Value.ordered .greaterOrEqual value operand
  | lessThan => Value.ordered .less value operand
  | lessOrEqualTo => Value.ordered .lessOrEqual value operand
  | matching => do
    let p ← operand.asPattern
    return p.occursIn (← value.display)

/-- Whether a value that is there satisfies a comparison; kinds that rule it out are noted. -/
def attempt (c : Comparator) (field value operand : Value) : Trial Bool :=
  match c.holds value operand with
  | .ok b => pure b
  | .error e =>
    if e.family = .type then do
      let text := "Cannot compare " ++ (← field.display) ++ " " ++ c.name ++ " "
        ++ (← operand.describe) ++ ": " ++ e.message
      Trial.debug text []
      pure false
    else throw e

/-- Whether a value satisfies a comparison with what an operand stands for. -/
def satisfied (c : Comparator) (field value operand : Value) : Trial Bool :=
  match operand, value with
  | .null, _ => pure true
  | operand, .null => pure (c = notEqualTo && !(Value.equals .null operand))
  | operand, value => do
    if ← c.attempt field value operand then pure true
    else pure (c = notEqualTo && !(value.equals operand))

/-- What a message shows of an operand: a reference itself, else what the operand stands for, as an
    expression where values are matched with it. -/
def shown (c : Comparator) (operand resolved : Value) : Except Fault Value :=
  match operand, resolved with
  | .field name, _ => .ok (.field name)
  | _, .field name => .ok (.field name)
  | _, resolved => do
    if c = matching then return .pattern (← resolved.asPattern) else return resolved

/-- The clause of a message for a comparison that is not satisfied. -/
def clause (c : Comparator) (operand resolved : Value) : Except Fault String := do
  let shown ← c.shown operand resolved
  return " " ++ c.words ++ " " ++ (← shown.describe)

end Comparator

end RecordRules
