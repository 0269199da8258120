import RecordRules.Rule.Bound
import RecordRules.Rule.Comparator
import RecordRules.Rule.Condition
import RecordRules.Rule.Message
import RecordRules.Rule.Run

/-!
# Must-be rules

A must-be rule passes as soon as one of its checks is satisfied: an escape, a membership, a date
bound, a comparison, or conditions that do not hold, in which case it does not apply. The checks
are tried in one fixed order, comparisons in the order of the options. Every check that is not
satisfied edits the message, and a rule without a satisfied check files it.
-/

namespace RecordRules

namespace MustBe

/-- One way for a rule to pass. -/
inductive Check where
  | blank
  | present
  | oneOf (values : Value)
  | notAnyOf (values : Value)
  | onlyFrom (values : Value)
  /-- Date bounds, one of which is enough; the value as received is read in any case. -/
  | window (bounds : List (Direction × Value)) (withTime : Bool)
  | comparison (c : Comparator) (operand : Value)
  | conditions (conditions : Value)

/-- What a check comes to: satisfied, or not and then with edits of the message. -/
inductive Finding where
  | satisfied
  | unsatisfied (edits : List Edit)

/-- What checks are made on. -/
structure Scene where
  subject : Subject
  clock : Moment
  field : Value
  value : Value

/-- The options that make a rule a rule, comparisons apart. -/
def directives : List String :=
  ["blank", "present", "one_of", "not_any_of", "only_from", "before", "after"]

/-- Whether an option makes a rule a rule. -/
def isDirective (key : Value) : Bool :=
  match key with
  | .text s => directives.contains s || (Comparator.ofKey? key).isSome
  | _ => false

/-- A check that is made if its option is given. -/
def ifGiven (options : Entries) (name : String) (check : Value → Check) : List Check :=
  match options.option name with
  | .null => []
  | v => [check v]

/-- The bounds that are given, the one to come before first. -/
def givenBounds (options : Entries) : List (Direction × Value) :=
  [Direction.before, .after].filterMap fun d =>
    match options.option d.text with
    | .null => none
    | bound => some (d, bound)

/-- The comparisons that are asked for, in the order of the options. -/
def comparisons (options : Entries) : List Check :=
  options.filterMap fun (key, operand) => (Comparator.ofKey? key).map (.comparison · operand)

/-- The checks of a rule in the order in which they are made. -/
def checks (options : Entries) : List Check :=
  (if (options.option "blank").truthy then [.blank] else [])
    ++ (if (options.option "present").truthy then [.present] else [])
    ++ ifGiven options "one_of" .oneOf
    ++ ifGiven options "not_any_of" .notAnyOf
    ++ ifGiven options "only_from" .onlyFrom
    ++ [.window (givenBounds options) (options.option "time").truthy]
    ++ comparisons options
    ++ ifGiven options "when" .conditions

/-- The sentence about a value that is not among those it may be. -/
def notValid (value : Value) : Except Fault String := do
  return ": '" ++ (← Bound.shown value) ++ "' is not a valid value"

/-- Whether one of some bounds is satisfied; if not, the failure of the last one stays. -/
def boundFinding (scene : Scene) (asReceived : Value) (withTime : Bool) :
    List (Direction × Value) → List Edit → Except Fault Finding
  | [], edits => .ok (.unsatisfied edits)
  | (d, bound) :: rest, edits => do
    match ← Bound.evaluate scene.subject scene.clock scene.value asReceived bound d withTime with
    | none => pure .satisfied
    | some failure => boundFinding scene asReceived withTime rest (edits ++ [.replace failure])

/-- What a check comes to. -/
def Check.run (scene : Scene) : Check → Trial Finding
  | .blank => pure (if scene.value.isBlank then .satisfied else .unsatisfied [.append " blank"])
  | .present =>
    pure (if scene.value.isPresent then .satisfied else .unsatisfied [.append " present"])
  | .oneOf values =>
    if scene.value.memberOf values.flatten then pure .satisfied
    else return .unsatisfied [.replace (← notValid scene.value)]
  | .notAnyOf values =>
    if scene.value.memberOf values.flatten then
      return .unsatisfied [.replace (← notValid scene.value)]
    else pure .satisfied
  | .onlyFrom values =>
    if scene.value.asSequence.all fun v => v.memberOf values.flatten then pure .satisfied
    else
      return .unsatisfied
        [.replace (": " ++ (← Value.displayAll scene.value.asSequence) ++ " is not a valid value")]
  | .window bounds withTime => do
    let asReceived ← scene.subject.received scene.field
    boundFinding scene asReceived withTime bounds []
  | .comparison c operand => do
    let resolved ← scene.subject.resolve operand
    if ← c.satisfied scene.field scene.value resolved then pure .satisfied
    else return .unsatisfied [.append (← c.clause operand resolved)]
  | .conditions (.dict entries) => do
    match ← Condition.clauses scene.subject scene.field entries with
    | none => pure .satisfied
    | some [] => pure (.unsatisfied [])
    | some clauses => pure (.unsatisfied [.append (" when " ++ " and ".intercalate clauses)])
  | .conditions _ => do throw (.conditionsOfRule (← scene.field.display))

/-- Makes checks until one is satisfied; the message that is left if none is. -/
def runChecks (scene : Scene) : List Check → Message → Trial (Option Message)
  | [], m => pure (some m)
  | check :: rest, m => do
    match ← check.run scene with
    | .satisfied => pure none
    | .unsatisfied edits => runChecks scene rest (edits.foldl Message.edit m)

/-- The sentence that lists values, where their option is given. -/
def listed (options : Entries) (name words : String) : Except Fault String :=
  match options.option name with
  | .null => .ok ""
  | values => do return ". " ++ words ++ ": " ++ (← Value.displayAll values.flatten)

/-- The sentences that list the values of memberships, unless the rule is not to show them. -/
def valueLists (options : Entries) : Except Fault String :=
  if ((options.get? (.text "show_values")).getD (.bool true)).truthy then do
    return (← listed options "one_of" "Valid values")
      ++ (← listed options "only_from" "Valid values")
      ++ (← listed options "not_any_of" "Invalid values")
  else .ok ""

/-- The message of a rule on a scene: nothing if it passes. -/
def judge (options : Entries) (scene : Scene) : Trial (Option Value) := do
  match ← runChecks scene (checks options) Message.start with
  | none => pure none
  | some m =>
    let m := m.append (← valueLists options)
    pure (some ((options.option "message").orElse (.text m.finish)))

/-- Runs a rule on a value. A disabled rule passes unseen; a rule without a directive is a fault. -/
def run (context : Context) (rule : Rule) (subject : Subject) (value : Value) : Run Bool := do
  if ← context.registry.isDisabled rule.name then
    let text := "Rule '" ++ (← rule.name.display) ++ "' is disabled, skipping "
      ++ (← rule.field.display)
    Trial.debug text []
    return true
  if !(rule.options.any fun (key, _) => isDirective key) then
    return ← Run.stop (.noDirective (← rule.field.display))
  let scene : Scene := { subject, clock := context.clock, field := rule.field, value }
  match ← (judge rule.options scene : Trial _) with
  | none => return true
  | some message =>
    let destination ← rule.destination context.registry subject
    Run.file (← destination.file rule.field message rule.name)
    let text := "Rule failed for " ++ (← rule.field.display) ++ ": " ++ (← message.display)
    Trial.debug text [("rule_name", rule.name), ("field_name", rule.field)]
    return false

end MustBe

end RecordRules
