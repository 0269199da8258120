import RecordRules.Record.Outcome
import RecordRules.Rule.Kind

/-!
# Engines

An engine is a list of rules, built from their declarations. It runs them in order on a record,
never stops early for a failure, and says of each rule whether it passed, failed, warned or was
skipped. A failure of a rule of severity warning, or of a notice rule, is a warning.
-/

namespace RecordRules

/-- How much a failure of a rule weighs. -/
inductive Severity where
  | error
  | warning
  deriving DecidableEq

namespace Severity

/-- The word for a severity. -/
def text : Severity → String
  | error => "error"
  | warning => "warning"

/-- The severity that a value names. -/
def ofValue? (v : Value) : Option Severity :=
  if Value.same v (.text "error") then some error
  else if Value.same v (.text "warning") then some warning
  else none

end Severity

/-- A rule in an engine. -/
structure Installed where
  name : Value
  severity : Severity
  kind : RuleKind
  rule : Rule

/-- Rules in the order in which they run. -/
structure Engine where
  rules : List Installed

/-! ## Building -/

namespace Entries

/-- An entry of a declaration that must be there. -/
def demand (entries : Entries) (name : String) : Except Fault Value :=
  match entries.get? (.text name) with
  | some v => .ok v
  | none => .error (.missingKey name)

end Entries

namespace Installed

/-- The options of a rule: those declared, its name, and for a warning its collection. -/
def options (declared : Entries) (name : Value) (severity : Severity) : Entries :=
  let named := declared.putDefault (.text "rule_name") name
  match severity with
  | .error => named
  | .warning => named.putDefault (.text "error_level") (.text "warnings")

/-- The rule that a declaration with some entries asks for; nothing if it is not enabled. -/
def ofEntries (entries : Entries) : Except Fault (Option Installed) := do
  if !((entries.get? (.text "enabled")).getD (.bool true)).truthy then return none
  let name ← entries.demand "rule_name"
  let declaredKind ← entries.demand "rule_type"
  let declaredSeverity := (entries.get? (.text "severity")).getD (.text "error")
  let kind ←
    match RuleKind.ofValue? (← declaredKind.asKey) with
    | some kind => pure kind
    | none => throw (.ruleType (← declaredKind.display))
  let severity ←
    match Severity.ofValue? declaredSeverity with
    | some severity => pure severity
    | none => throw (.severity (← declaredSeverity.display) (← name.display) false)
  let declared ← ((entries.option "parameters").orElse (.dict [])).asEntries
  let field ← entries.demand "field_name"
  return some { name, severity, kind, rule := { field, options := options declared name severity } }

/-- The rule that a declaration asks for. -/
def ofDeclaration : Value → Except Fault (Option Installed)
  | .dict entries => ofEntries entries
  | v => .error (.noAttribute v.kind "get")

end Installed

namespace Engine

/-- The engine that a list of declarations asks for. -/
def build (declarations : Value) : Except Fault Engine := do
  let installed ← (← declarations.iterate).mapM Installed.ofDeclaration
  return ⟨installed.filterMap id⟩

/-! ## Running -/

/-- What became of a rule on a record. -/
inductive Standing where
  | passed
  | failed
  | warned
  | skipped
  deriving DecidableEq

/-- Runs one rule. -/
def stand (context : Context) (subject : Subject) (i : Installed) : Run Standing := do
  if ← context.registry.isDisabled i.rule.name then return .skipped
  if ← i.kind.runOn context i.rule subject then return .passed
  if i.severity = .warning || context.registry.isNotice i.rule.name then return .warned
  return .failed

/-- Runs rules in order: what became of each. A rule sees what those before it have changed. -/
def standings (context : Context) (subject : Subject) :
    List Installed → Run (List (Value × Standing))
  | [] => return []
  | i :: rest => do
    let ran := stand context subject i
    let standing ← ran
    return (i.name, standing) :: (← standings context (subject.changed ran.changes) rest)

/-- The names of the rules of a standing, in order. -/
def named (standings : List (Value × Standing)) (standing : Standing) : List Value :=
  (standings.filter fun (_, s) => s = standing).map (·.1)

end Engine

/-- The outcome of a run over a record with its messages; the names of rules must be texts. -/
def Outcome.ofStandings (record : Record) (standings : List (Value × Engine.Standing)) :
    Checked Outcome :=
  let names (s : Engine.Standing) : Value := .list (Engine.named standings s)
  Outcome.ofFields [
    (.text "record_id", .text record.subject.id),
    (.text "passed", .bool (Engine.named standings .failed).isEmpty),
    (.text "passed_rules", names .passed),
    (.text "failed_rules", names .failed),
    (.text "warnings", names .warned),
    (.text "skipped_rules", names .skipped),
    (.text "messages", .list ((fullMessages record.errors).map .text))]

/-- What became of a record: the record afterwards, the notes, and the outcome. -/
structure Validation where
  record : Record
  notes : List Note
  outcome : Except Fault Outcome

namespace Engine

/-- Runs the rules of an engine over a record. The status is set once all rules have run. -/
def validate (engine : Engine) (context : Context) (record : Record) : Validation :=
  let run := standings context record.subject engine.rules
  let after := record.after run
  match run.outcome with
  | .error e => ⟨after, run.notes, .error e⟩
  | .ok standings =>
    let passed := (named standings .failed).isEmpty
    let settled := { after with status := if passed then .valid else .invalid }
    ⟨settled, run.notes,
      Checked.orFault "ValidationResult" (Outcome.ofStandings settled standings)⟩

/-! ## Summary -/

/-- How often each of some words occurs, in the order of first occurrence. -/
def counts (words : List String) : Named Nat :=
  words.foldl (fun counted word => Named.put counted word ((counted.lookup word).getD 0 + 1)) []

/-- The number of rules of each kind. -/
def countByKind (engine : Engine) : Named Nat :=
  counts (engine.rules.map (·.kind.text))

/-- The number of rules of each severity. -/
def countBySeverity (engine : Engine) : Named Nat :=
  counts (engine.rules.map (·.severity.text))

end Engine

end RecordRules
