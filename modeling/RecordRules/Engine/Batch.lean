import RecordRules.Engine.Basic
import RecordRules.Journal.Operation

/-!
# Batches

An engine runs over several records, one after another, as one operation in the journal. Records
are kept by name, so that a batch can name a record twice. A fault ends the batch: the records
after it are not touched.
-/

namespace RecordRules

/-- Records by name. -/
abbrev Records := Named Record

/-- What became of a batch: the records afterwards, the notes, and the outcomes. -/
structure BatchValidation where
  records : Records
  notes : List Note
  outcome : Except Fault (List Outcome)

namespace Engine

/-- Runs an engine over the records of some names, one after another. -/
def validateEach (engine : Engine) (context : Context) :
    List String → Records → BatchValidation
  | [], records => ⟨records, [], .ok []⟩
  | name :: rest, records =>
    match records.lookup name with
    | none => ⟨records, [], .error (.missingKey name)⟩
    | some record =>
      let first := engine.validate context record
      let records := Named.put records name first.record
      match first.outcome with
      | .error e => ⟨records, first.notes, .error e⟩
      | .ok outcome =>
        let others := engine.validateEach context rest records
        ⟨others.records, first.notes ++ others.notes, others.outcome.map (outcome :: ·)⟩

/-- The note on a batch that was completed. -/
def batchNote (outcomes : List Outcome) : Note :=
  ⟨.info, "Batch validated",
    [("batch_size", .int outcomes.length),
      ("invalid_records", .int (outcomes.filter fun o => !o.passed).length)]⟩

/-- Runs an engine over a batch of records. -/
def validateBatch (engine : Engine) (context : Context) (names : List String) (records : Records) :
    BatchValidation :=
  let operation := "Validating batch"
  let extras := [("batch_size", Value.int names.length)]
  let each := engine.validateEach context names records
  let closing :=
    match each.outcome with
    | .ok outcomes => [batchNote outcomes]
    | .error _ => []
  { each with
    notes := Operation.started operation extras ::
      (each.notes ++ Operation.ended operation extras each.outcome :: closing) }

end Engine

end RecordRules
