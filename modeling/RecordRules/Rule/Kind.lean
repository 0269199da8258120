import RecordRules.Rule.DateRule
import RecordRules.Rule.MustBe

/-!
# The kinds of rule

A rule is a must-be rule or a date rule; either runs on the value that its attribute has.
-/

namespace RecordRules

/-- The two kinds of rule. -/
inductive RuleKind where
  | mustBe
  | date
  deriving DecidableEq

namespace RuleKind

/-- The word for a kind in declarations. -/
def text : RuleKind → String
  | mustBe => "must_be"
  | date => "date"

/-- The word for a kind where a rule is shown. -/
def title : RuleKind → String
  | mustBe => "MustBeValidator"
  | date => "DateValidator"

/-- The kind that a value names. -/
def ofValue? (v : Value) : Option RuleKind :=
  if Value.same v (.text mustBe.text) then some mustBe
  else if Value.same v (.text date.text) then some date
  else none

/-- Runs a rule of a kind on a value. -/
def run (kind : RuleKind) (context : Context) (rule : Rule) (subject : Subject) (value : Value) :
    Run Bool :=
  match kind with
  | mustBe => MustBe.run context rule subject value
  | date => DateRule.run context rule subject value

/-- Runs a rule of a kind on the attribute it is about. -/
def runOn (kind : RuleKind) (context : Context) (rule : Rule) (subject : Subject) : Run Bool := do
  kind.run context rule subject (← subject.read rule.field)

/-- A rule with its attribute and its options. -/
def literal (kind : RuleKind) (rule : Rule) : Except Fault String := do
  return kind.title ++ "(field=" ++ (← rule.field.display) ++ ", params="
    ++ (Value.dict rule.options).literal ++ ")"

end RuleKind

end RecordRules
