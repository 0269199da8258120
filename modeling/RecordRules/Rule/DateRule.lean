import RecordRules.Rule.Bound
import RecordRules.Rule.Run

/-!
# Date rules

A date rule demands a date within bounds. No value means that what was received did not read as a
date; values of other kinds are left to other rules. Each bound that fails files an entry of its
own, the bound to come after first.
-/

namespace RecordRules

namespace DateRule

/-- What a rule says of a value that did not read as a date. -/
def unreadable (withTime : Bool) (received : String) : String :=
  ": " ++ received ++ " is not a valid value. Value must be a date in YYYY-MM-DD"
    ++ (if withTime then " or YYYY-MM-DD HH:MM:SS format." else ".")

/-- Holds a date against one bound, if it is given, and files the failure. -/
def runBound (context : Context) (rule : Rule) (subject : Subject) (destination : Destination)
    (value asReceived : Value) (d : Direction) : Run Bool :=
  match rule.options.option d.text with
  | .null => return true
  | bound => do
    let withTime := (rule.options.option "time").truthy
    match ← Bound.evaluate subject context.clock value asReceived bound d withTime with
    | none => return true
    | some failure =>
      let own := rule.options.option (d.text ++ "_message")
      Run.file (← destination.file rule.field (own.orElse (.text (failure ++ "."))) rule.name)
      let text := "Date rule failed for " ++ (← rule.field.display) ++ ": " ++ failure
      Trial.debug text []
      return false

/-- Runs a rule on a value that did not read as a date. -/
def runUnread (rule : Rule) (destination : Destination) (asReceived : Value) : Run Bool := do
  if asReceived.isBlank && (rule.options.option "allow_blank").truthy then return true
  let text := unreadable (rule.options.option "time").truthy (← Bound.shown asReceived)
  let own := rule.options.option "message"
  Run.file (← destination.file rule.field (own.orElse (.text text)) rule.name)
  return false

/-- Runs a rule on a value. A disabled rule passes unseen. -/
def run (context : Context) (rule : Rule) (subject : Subject) (value : Value) : Run Bool := do
  if ← context.registry.isDisabled rule.name then
    let text := "Rule '" ++ (← rule.name.display) ++ "' is disabled, skipping "
      ++ (← rule.field.display)
    Trial.debug text []
    return true
  let asReceived ← subject.received rule.field
  let destination ← rule.destination context.registry subject
  match value with
  | .null => runUnread rule destination asReceived
  | value =>
    if value.isDate then
      let after ← runBound context rule subject destination value asReceived .after
      let before ← runBound context rule subject destination value asReceived .before
      return after && before
    else return true

end DateRule

end RecordRules
