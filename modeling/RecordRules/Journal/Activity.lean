import RecordRules.Journal.Writer
import RecordRules.Value.Arguments

/-!
# Activities

What a journal follows: single notes, and operations made of further activities, which may fail at
their end. A fault in a part of an operation is reported there and does not end the operation.
-/

namespace RecordRules

/-- A note, or an operation with its parts and perhaps a failure at its end. -/
inductive Activity where
  | note (note : Note)
  | operation (name : String) (extras : Named Value) (parts : List Activity)
      (failure : Option String)

/-- What an activity came to. -/
inductive Report where
  | silent
  | parts (reports : List Report)
  | fault (e : Fault)

namespace Activity

/-- An operation around a trial: a note before, and a note after that tells how it ended. -/
def around {α : Type} (writer : Option Writer) (name : String) (extras : Named Value)
    (body : Trial α) : Trial α := do
  Writer.take writer (Operation.started name extras)
  let outcome ← (⟨body.notes, body.changes, .ok body.outcome⟩ : Trial (Except Fault α))
  Writer.take writer (Operation.ended name extras outcome)
  liftM outcome

/-- Checks the named values of an operation, which are given to it as arguments by name. -/
def checkExtras (extras : Named Value) : Except Fault Unit := do
  if (extras.lookup "logger").isSome then
    throw (.repeatedNamedArgument "be_valid.observability.logger.log_operation" "logger")
  let placed := ["self", "operation_name"]
  let _ ← Arguments.besides "log_operation.__init__" placed extras

/-- The end of an operation. -/
def ending (reports : List Report) : Option String → Except Fault Report
  | none => .ok (.parts reports)
  | some text => .error (.raised .value text)

mutual

/-- Follows an activity. -/
def run (writer : Option Writer) : Activity → Trial Report
  | note n => tryCatch (do Writer.take writer n; return .silent) fun e => pure (.fault e)
  | operation name extras parts failure =>
    tryCatch
      (do
        liftM (checkExtras extras)
        around writer name extras do
          let reports ← runAll writer parts
          ending reports failure)
      fun e => pure (.fault e)

/-- Follows activities one after another. -/
def runAll (writer : Option Writer) : List Activity → Trial (List Report)
  | [] => return []
  | a :: rest => do
    let report ← run writer a
    return report :: (← runAll writer rest)

end

end Activity

end RecordRules
