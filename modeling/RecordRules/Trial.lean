import RecordRules.Fault
import RecordRules.Journal.Note

/-!
# Trials

An evaluation that writes notes, may change values of the record that it reads, and may stop with a
fault. What was written and changed before a fault stays. What a trial comes to never depends on
its notes: `outcome_bind` says that outcomes are combined as if there were none.
-/

namespace RecordRules

/-- Attributes with what is left of their values, in the order in which they were changed. -/
abbrev Changes := List (Value × Value)

/-- The notes of an evaluation, what it has changed, and what it came to. -/
structure Trial (α : Type) where
  notes : List Note
  changes : Changes
  outcome : Except Fault α

namespace Trial

/-- The trial that comes to a value at once. -/
def pure {α : Type} (a : α) : Trial α := ⟨[], [], .ok a⟩

/-- One trial after another: the second one runs unless the first one stops. -/
def bind {α β : Type} (t : Trial α) (f : α → Trial β) : Trial β :=
  match t.outcome with
  | .ok a => ⟨t.notes ++ (f a).notes, t.changes ++ (f a).changes, (f a).outcome⟩
  | .error e => ⟨t.notes, t.changes, .error e⟩

instance : Monad Trial where
  pure := pure
  bind := bind

instance : MonadLift (Except Fault) Trial where
  monadLift outcome := ⟨[], [], outcome⟩

instance : MonadExceptOf Fault Trial where
  throw e := ⟨[], [], .error e⟩
  tryCatch t handle :=
    match t.outcome with
    | .ok _ => t
    | .error e =>
      ⟨t.notes ++ (handle e).notes, t.changes ++ (handle e).changes, (handle e).outcome⟩

/-- Writes a note that serves to find mistakes. -/
def debug (text : String) (extras : Named Value) : Trial Unit :=
  ⟨[⟨.debug, text, extras⟩], [], .ok ()⟩

/-- Leaves something of the value of an attribute. -/
def leave (name left : Value) : Trial Unit := ⟨[], [(name, left)], .ok ()⟩

/-- Outcomes combine as if there were no notes. -/
theorem outcome_bind {α β : Type} (t : Trial α) (f : α → Trial β) :
    (t >>= f).outcome = t.outcome >>= fun a => (f a).outcome := by
  show (bind t f).outcome = _
  unfold bind
  cases t.outcome <;> rfl

end Trial

end RecordRules
