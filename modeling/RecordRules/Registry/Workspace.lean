import RecordRules.Registry.Basic

/-!
# Workspaces

The registries of a program, each with an identity and settings of its own. One of them is the current
one; it is made when it is first needed and can be replaced, which leaves the former one as it is.
Suspensions of rules are nested: the last one begun is the first to end, and it ends on the registry
it was begun on.
-/

namespace RecordRules

/-- A suspension that has not ended: where it was begun, and what it is to put back. -/
structure Suspension where
  registry : Nat
  saved : Registry.Saved

/-- Registries, of which one may be the current one, and the suspensions that have not ended. -/
structure Workspace where
  registries : List Registry
  current? : Option Nat
  /-- The last one begun is the first. -/
  suspensions : List Suspension

namespace Workspace

/-- The workspace at the start. -/
def empty : Workspace := ⟨[], none, []⟩

/-- The registry of an identity. -/
def registry (w : Workspace) (id : Nat) : Registry := w.registries.getD id .empty

/-- The workspace with one more registry, and its identity. -/
def add (w : Workspace) (r : Registry) : Workspace × Nat :=
  ({ w with registries := w.registries ++ [r] }, w.registries.length)

/-- The workspace with another registry of some identity. -/
def put (w : Workspace) (id : Nat) (r : Registry) : Workspace :=
  { w with registries := w.registries.set id r }

/-- Makes an empty registry the current one. -/
def reset (w : Workspace) : Workspace × Nat :=
  let (w, id) := w.add .empty
  ({ w with current? := some id }, id)

/-- The current registry, which is made if there is none. -/
def current (w : Workspace) : Workspace × Nat :=
  match w.current? with
  | some id => (w, id)
  | none => w.reset

/-- The registry that is meant: a given one, or else the current one. -/
def meant (w : Workspace) : Option Nat → Workspace × Nat
  | some id => (w, id)
  | none => w.current

/-- Disables or enables rules in a registry. -/
def setAll (w : Workspace) (id : Nat) (disabled : Bool) (names : List Value) :
    Workspace × Except Fault Unit :=
  let (r, outcome) := (w.registry id).setAll disabled names
  (w.put id r, outcome)

/-- Adds notice rules to a registry. -/
def addNotices (w : Workspace) (id : Nat) (names : List Value) : Workspace :=
  w.put id ((w.registry id).addNotices names)

/-- Begins a suspension of rules of a registry. -/
def suspend (w : Workspace) (id : Nat) (names : List Value) : Except Fault Workspace := do
  let (saved, r) ← (w.registry id).suspend names
  return { w.put id r with suspensions := ⟨id, saved⟩ :: w.suspensions }

/-- Ends the last suspension, and tells on which registry; nothing if there is none. -/
def resume? (w : Workspace) : Option (Workspace × Nat) :=
  match w.suspensions with
  | [] => none
  | s :: rest =>
    some ({ w.put s.registry ((w.registry s.registry).restore s.saved) with suspensions := rest },
      s.registry)

end Workspace

end RecordRules
