import RecordRules.Model.Checked

/-!
# Outcomes

What running rules over a record came to: which rules passed, failed, warned or were skipped, and
the messages of the record. An outcome that claims to have passed lists no failed rule.
-/

namespace RecordRules

/-- The outcome of running rules over a record. -/
structure Outcome where
  record : String
  passed : Bool
  passedRules : List String
  failedRules : List String
  warnings : List String
  skippedRules : List String
  messages : List String
  deriving DecidableEq

namespace Outcome

/-- Names of rules or messages. -/
def asTexts (v : Value) : Checked (List String) := v.asListOf Value.asText

/-- Failed rules that do not contradict a verdict. -/
def consistent (passed : Checked Bool) (given : Value) : Checked (List String) := do
  let failed ← asTexts given
  match passed with
  | .ok true =>
    if failed.isEmpty then .ok failed
    else Checked.refuse given "value_error" "Value error, passed=True but failed_rules is not empty"
  | _ => .ok failed

/-- An outcome from its fields. -/
def ofFields (fields : Entries) : Checked Outcome :=
  open Checked in
  let passed := fields.required "passed" Value.asBool
  (both (fields.required "record_id" Value.asText)
    (both passed
      (both (fields.optional "passed_rules" [] asTexts)
        (both (fields.optional "failed_rules" [] (consistent passed))
          (both (fields.optional "warnings" [] asTexts)
            (both (fields.optional "skipped_rules" [] asTexts)
              (fields.optional "messages" [] asTexts))))))).map
    fun (record, passed, passedRules, failedRules, warnings, skippedRules, messages) =>
      { record, passed, passedRules, failedRules, warnings, skippedRules, messages }

end Outcome

end RecordRules
