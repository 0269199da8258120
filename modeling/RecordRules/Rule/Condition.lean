import RecordRules.Rule.Operand
import RecordRules.Value.Question

/-!
# Conditions

A rule may be limited to records on which some conditions hold, each on one attribute: that it
matches an expression, is among some values, is blank or present, answers a question with yes,
equals another attribute, or equals a value. A question may change the value that it is asked of, and
the conditions after it see what is left.
-/

namespace RecordRules

namespace Condition

/-- Whether a condition holds of the value of an attribute. -/
def holds (subject : Subject) (condition current : Value) : Except Fault Bool :=
  match condition, current with
  | .pattern _, .null => .ok false
  | .pattern p, current => do return p.occursIn (← current.display)
  | .sentinel .blank, current => .ok current.isBlank
  | .sentinel .present, current => .ok current.isPresent
  | .method _, .null => .ok false
  | .method name, current => (current.ask name).answer
  | .field name, current => do return current.equals (← subject.read name)
  | condition, current =>
    if condition.isCollection then .ok (current.memberOf condition.flatten)
    else .ok (condition.equals current)

/-- What a condition leaves of the value of an attribute. -/
def left (condition current : Value) : Value :=
  match condition with
  | .method name => (current.ask name).left
  | _ => current

/-- The clause of a message for a condition that holds. -/
def clause (name condition current : Value) : Except Fault String :=
  match condition with
  | .sentinel .blank => do return (← name.display) ++ " is " ++ Sentinel.blank.text
  | .sentinel .present => do return (← name.display) ++ " is " ++ Sentinel.present.text
  | _ => do
    let shown ← name.display
    match current with
    | .null => return shown ++ " = "
    | current => return shown ++ " = " ++ (← current.display)

/-- The clauses of conditions on attributes, as long as they hold; nothing if one does not, which
    is noted. Each shows what its condition has left of the value. -/
def clauses (subject : Subject) (field : Value) : Entries → Trial (Option (List String))
  | [] => pure (some [])
  | (name, condition) :: rest => do
    let current ← subject.read name
    let left := left condition current
    Trial.leave name left
    if ← holds subject condition current then
      let text ← clause name condition left
      let others ← clauses (subject.leave name left) field rest
      pure (others.map (text :: ·))
    else
      let text := "Condition on '" ++ (← name.display) ++ "' not met, rule for "
        ++ (← field.display) ++ " does not apply"
      Trial.debug text []
      pure none

end Condition

end RecordRules
