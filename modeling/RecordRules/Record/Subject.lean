import RecordRules.Named
import RecordRules.Value.Mapping

/-!
# Subjects

What rules read: the attributes of a record as received and after conversion, and the data that
identifies it. A rule sets no attribute, but a question that it asks may change the value of one. No
two attributes share a value that can be changed, be they of one record or of two, nor does an
attribute share one with an option of a rule; so what is left of it is seen in one place.
-/

namespace RecordRules

/-- Attributes by name, in order. -/
abbrev Payload := Named Value

/-- The value of an attribute, if there is one of that name. -/
def Payload.get? (payload : Payload) : Value → Option Value
  | .text name => payload.lookup name
  | _ => none

/-- The attributes with another value for that of a name, if there is one. -/
def Payload.replace (payload : Payload) (name value : Value) : Payload :=
  match name with
  | .text name => Named.replace payload name value
  | _ => payload

/-- What rules read of a record. -/
structure Subject where
  id : String
  source : Option String
  batch : Option String
  /-- The values as received. -/
  raw : Payload
  /-- The values after conversion; those as received stand in where there was none. -/
  processed : Option Payload

namespace Subject

/-- The attributes in force. -/
def payload (s : Subject) : Payload := s.processed.getD s.raw

/-- Whether there is an attribute, converted or as received. -/
def has (s : Subject) (name : Value) : Except Fault Bool := do
  let name ← name.asKey
  return (s.payload.get? name).isSome || (s.raw.get? name).isSome

/-- The value of an attribute, nothing if it is not set. -/
def read (s : Subject) (name : Value) : Except Fault Value := do
  let name ← name.asKey
  return (s.payload.get? name).getD .null

/-- The value of an attribute as received, before any conversion. -/
def received (s : Subject) (name : Value) : Except Fault Value := do
  let name ← name.asKey
  return ((s.raw.get? name).orElse fun _ => s.payload.get? name).getD .null

/-- The subject with what is left of the value of an attribute, if it has one. -/
def leave (s : Subject) (name left : Value) : Subject :=
  match s.processed with
  | some payload => { s with processed := some (payload.replace name left) }
  | none => { s with raw := s.raw.replace name left }

/-- The subject after some changes. -/
def changed (s : Subject) (changes : List (Value × Value)) : Subject :=
  changes.foldl (fun s (name, left) => s.leave name left) s

end Subject

end RecordRules
