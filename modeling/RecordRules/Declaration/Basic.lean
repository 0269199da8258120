import RecordRules.Rule.Kind

/-!
# Declarations of rules

A declaration says which rule an engine is to hold: its name, its kind, the attribute it is about,
its options, its severity, and whether it is enabled. It is also a value, a mapping of these.
-/

namespace RecordRules

/-- The declaration of a rule. -/
structure Declaration where
  name : Value
  kind : RuleKind
  field : Value
  parameters : Entries
  severity : Value
  enabled : Value

namespace Declaration

/-- The declaration as a mapping. -/
def toValue (d : Declaration) : Value :=
  .dict [
    (.text "rule_name", d.name),
    (.text "rule_type", .text d.kind.text),
    (.text "field_name", d.field),
    (.text "parameters", .dict d.parameters),
    (.text "severity", d.severity),
    (.text "enabled", d.enabled)]

/-- Declarations as a list of mappings. -/
def listValue (declarations : List Declaration) : Value := .list (declarations.map toValue)

/-- The name of a rule that is given none: the attribute, the kind and a number. -/
def generatedName (field : Value) (kind : RuleKind) (number : Nat) : Except Fault String := do
  return (← field.display) ++ "_" ++ kind.text ++ "_" ++ toString number

/-! ## Declaring one rule after another -/

/-- Declarations with one more for a rule of a kind. A rule without a name is named by how many were
    declared before it. -/
def declare (declared : List Declaration) (kind : RuleKind) (field name severity : Value)
    (parameters : Entries) : Except Fault (List Declaration) := do
  let generated (_ : Unit) : Except Fault Value :=
    return .text (← generatedName field kind declared.length)
  let name ← if name.truthy then pure name else generated ()
  return declared ++ [{ name, kind, field, parameters, severity, enabled := .bool true }]

/-- Declarations with one more, where the name and the severity are given among the options, all of
    them as arguments by name. -/
def declareWith (declared : List Declaration) (kind : RuleKind) (field : Value)
    (given : Entries) : Except Fault (List Declaration) := do
  let procedure := "RuleConfigBuilder." ++ kind.text
  let _ ← Arguments.besides procedure ["self", "field_name"] (← given.asArguments)
  let own (key : Value) : Bool :=
    Value.same (.text "rule_name") key || Value.same (.text "severity") key
  declare declared kind field (given.option "rule_name")
    ((given.get? (.text "severity")).getD (.text "error"))
    (given.filter fun (key, _) => !own key)

end Declaration

end RecordRules
