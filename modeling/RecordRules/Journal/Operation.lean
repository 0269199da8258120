import RecordRules.Fault
import RecordRules.Journal.Note
import RecordRules.Named

/-!
# Operations in the journal

An operation is noted when it starts and when it is completed or has failed, then with the kind
and the wording of the fault. Named values of its own go with each note and prevail.
-/

namespace RecordRules

namespace Operation

/-- The note on the start of an operation. -/
def started (name : String) (extras : Named Value) : Note :=
  ⟨.info, "Starting: " ++ name, Named.overriddenBy [("operation", .text name)] extras⟩

/-- The note on the success of an operation. -/
def completed (name : String) (extras : Named Value) : Note :=
  ⟨.info, "Completed: " ++ name,
    Named.overriddenBy [("operation", .text name), ("status", .text "success")] extras⟩

/-- The note on the failure of an operation. -/
def failed (name : String) (extras : Named Value) (e : Fault) : Note :=
  ⟨.error, "Failed: " ++ name,
    Named.overriddenBy [("operation", .text name), ("status", .text "error"),
      ("error_type", .text e.family.name), ("error_message", .text e.message)] extras⟩

/-- The note on the end of an operation. -/
def ended {α : Type} (name : String) (extras : Named Value) : Except Fault α → Note
  | .ok _ => completed name extras
  | .error e => failed name extras e

end Operation

end RecordRules
