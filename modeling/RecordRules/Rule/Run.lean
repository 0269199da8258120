import RecordRules.Record.Basic
import RecordRules.Registry.Basic
import RecordRules.Trial

/-!
# Runs of rules

A rule runs over a subject under a registry and a clock. It writes notes, files entries into the
collections of the record, may change values by the questions that it asks, and comes to a verdict or
stops with a fault; what it did before stays. It sees what other rules have left of the values of
attributes. That it cannot see what they have filed is an assumption on formulas: they are taken to
read nothing but attributes, and to have no effects of their own.
-/

namespace RecordRules

/-- What a rule runs under. -/
structure Context where
  registry : Registry
  /-- The present time, in universal time. -/
  clock : Moment

/-- A rule: the attribute it is about, and its options. -/
structure Rule where
  field : Value
  options : Entries

namespace Rule

/-- The name of a rule, for the registry and for its entries. -/
def name (r : Rule) : Value := r.options.option "rule_name"

/-- The collection that is named for the failures of a rule; nothing for its usual one. -/
def level (r : Rule) (registry : Registry) : Value :=
  match r.options.option "error_level" with
  | .null => if registry.isNotice r.name then .text "warnings" else .null
  | level => level

/-- Where the failures of a rule go. -/
def destination (r : Rule) (registry : Registry) (subject : Subject) : Except Fault Destination :=
  subject.destination (r.level registry)

end Rule

/-- The entries and notes of a run, what it has changed, and what it came to. -/
structure Run (α : Type) where
  filed : List (Collection × Entry)
  notes : List Note
  changes : Changes
  outcome : Except Fault α

namespace Run

/-- The run that comes to a value at once. -/
def pure {α : Type} (a : α) : Run α := ⟨[], [], [], .ok a⟩

/-- One run after another: the second one happens unless the first one stops. -/
def bind {α β : Type} (r : Run α) (f : α → Run β) : Run β :=
  match r.outcome with
  | .ok a =>
    ⟨r.filed ++ (f a).filed, r.notes ++ (f a).notes, r.changes ++ (f a).changes, (f a).outcome⟩
  | .error e => ⟨r.filed, r.notes, r.changes, .error e⟩

instance : Monad Run where
  pure := pure
  bind := bind

instance : MonadLift Trial Run where
  monadLift t := ⟨[], t.notes, t.changes, t.outcome⟩

instance : MonadLift (Except Fault) Run where
  monadLift outcome := ⟨[], [], [], outcome⟩

/-- Stops with a fault. -/
def stop {α : Type} (e : Fault) : Run α := ⟨[], [], [], .error e⟩

/-- Files an entry. -/
def file (filed : Collection × Entry) : Run Unit := ⟨[filed], [], [], .ok ()⟩

end Run

/-- The record after a run. -/
def Record.after {α : Type} (record : Record) (run : Run α) : Record :=
  { record with subject := record.subject.changed run.changes }.addAll run.filed

end RecordRules
