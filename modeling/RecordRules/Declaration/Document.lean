import RecordRules.Declaration.Basic
import RecordRules.Declaration.Notation
import RecordRules.Engine.Basic
import RecordRules.Value.Mention

/-!
# Rule files

A rule file is a mapping whose section of rules maps each attribute to a list of rules. Rules are
declared in the order of the file; a rule without a name is named for its attribute, its kind and
its place in the list.
-/

namespace RecordRules

namespace Value

/-- The part of a document under a word that it mentions. -/
def part (word : String) : Value → Except Fault Value
  | dict entries => Entries.demand entries word
  | text _ => .error .textIndex
  | list _ => .error (.listIndex "list")
  | tuple _ => .error (.listIndex "tuple")
  | v => .error (.notIndexable v.kind)

end Value

namespace Declaration

/-- The options in the declaration of a rule, under one of two words. -/
def writtenOptions (entries : Entries) : Value :=
  let longer := (entries.get? (.text "parameters")).getD (.dict [])
  ((entries.get? (.text "params")).getD longer).orElse (.dict [])

/-- The declaration of a rule of a kind that some entries give. -/
def ofEntries (field : Value) (kind : RuleKind) (index : Nat) (entries : Entries) :
    Except Fault Declaration := do
  let generated ← generatedName field kind index
  let name := (entries.get? (.text "name")).getD (.text generated)
  let severity := (entries.get? (.text "severity")).getD (.text Severity.error.text)
  if (Severity.ofValue? severity).isNone then
    throw (.severity (← severity.display) (← name.display) true)
  let parameters ← Notation.options (writtenOptions entries)
  let enabled := (entries.get? (.text "enabled")).getD (.bool true)
  return { name, kind, field, parameters, severity, enabled }

/-- The declaration that an element of the list of an attribute stands for. -/
def ofElement (field : Value) (index : Nat) (written : Value) : Except Fault Declaration := do
  if !(← written.mentions "type") then throw (.noType (← field.display))
  let type ← written.part "type"
  match RuleKind.ofValue? type, written with
  | none, _ => throw (.typeOfField (← type.display) (← field.display))
  | some kind, .dict entries => ofEntries field kind index entries
  | some _, v => throw (.noAttribute v.kind "get")

/-- The declarations that the list of an attribute stands for, from a place in it on. -/
def ofElements (field : Value) (index : Nat) : List Value → Except Fault (List Declaration)
  | [] => .ok []
  | written :: rest => do
    let first ← ofElement field index written
    return first :: (← ofElements field (index + 1) rest)

/-- The declarations of the rules on an attribute. -/
def ofField (field : Value) : Value → Except Fault (List Declaration)
  | .list elements => ofElements field 0 elements
  | _ => do throw (.rulesOfField (← field.display))

/-- The declarations in the section of rules. -/
def ofSection : Value → Except Fault (List Declaration)
  | .dict fields => do return (← fields.mapM fun (field, rules) => ofField field rules).flatten
  | v => .error (.noAttribute v.kind "items")

/-- The declarations in a document. -/
def ofDocument (document : Value) : Except Fault (List Declaration) := do
  if !document.truthy then throw .noRules
  if !(← document.mentions "rules") then throw .noRules
  ofSection (← document.part "rules")

end Declaration

end RecordRules
