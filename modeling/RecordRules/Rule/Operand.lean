import RecordRules.Record.Subject
import RecordRules.Trial
import RecordRules.Value.Arithmetic
import RecordRules.Value.Collection
import RecordRules.Value.Text

/-!
# Operands

What the options of a rule stand for: a reference stands for another attribute, a formula for what
it computes from the record, and every other value for itself.
-/

namespace RecordRules

namespace Subject

/-- What a formula computes. -/
def evaluate (s : Subject) : Formula Value → Except Fault Value
  | .constant v => .ok v
  | .current name => s.read name
  | .received name => s.received name
  | .known name => return .bool (← s.has name)
  | .sum name addend => do (← s.read name).plus addend
  | .product name factor => do (← s.read name).times factor
  | .failure .value text => .error (.raised .value text)
  | .failure .type text => .error (.raised .type text)

/-- What an operand stands for. -/
def resolve (s : Subject) : Value → Except Fault Value
  | .field name => s.read name
  | .computed _ formula => s.evaluate formula
  | v => .ok v

end Subject

namespace Value

/-- Whether an operand computes its value from the record. -/
def isComputed : Value → Bool
  | computed _ _ => true
  | _ => false

/-- The text of an operand in messages: an expression between slashes, else the display form. -/
def describe : Value → Except Fault String
  | pattern p => .ok ("/" ++ p.source ++ "/")
  | v => v.display

/-- An operand as an expression: itself, or the one that its display form denotes. -/
def asPattern : Value → Except Fault Pattern
  | pattern p => .ok p
  | v => do
    let source ← v.display
    (Pattern.compile source).mapError (.pattern source)

end Value

end RecordRules
