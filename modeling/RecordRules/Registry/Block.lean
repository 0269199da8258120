import RecordRules.Registry.Workspace

/-!
# Blocks of actions

What a program does to its registries, action by action. An action that stops with a fault ends the
block it stands in. A suspension lasts for a block of its own, and ends with it in either case: the
fault of the block goes on after what was suspended has been put back.
-/

namespace RecordRules

/-- One thing that is done to a registry: a given one, or else the current one. -/
inductive Action where
  | setAll (registry : Option Nat) (disabled : Bool) (names : List Value)
  | addNotices (registry : Option Nat) (names : List Value)
  | reset
  /-- Whatever else stops a block. -/
  | stop (fault : Fault)
  | suspending (registry : Option Nat) (names : List Value) (block : List Action)

namespace Workspace

/-- A program within a suspension of rules of a registry, which ends with it whether or not it was
    stopped. -/
def during (w : Workspace) (id : Nat) (names : List Value)
    (program : Workspace → Workspace × Except Fault Unit) : Workspace × Except Fault Unit :=
  match w.suspend id names with
  | .error fault => (w, .error fault)
  | .ok entered =>
    let (left, outcome) := program entered
    ((left.resume?.map (·.1)).getD left, outcome)

mutual

/-- The workspace after an action, and the fault that stopped it if one did. -/
def act (w : Workspace) : Action → Workspace × Except Fault Unit
  | .setAll registry disabled names =>
    let (w, id) := w.meant registry
    w.setAll id disabled names
  | .addNotices registry names =>
    let (w, id) := w.meant registry
    (w.addNotices id names, .ok ())
  | .reset => (w.reset.1, .ok ())
  | .stop fault => (w, .error fault)
  | .suspending registry names block =>
    let (w, id) := w.meant registry
    w.during id names fun entered => entered.actAll block

/-- The workspace after the actions of a block, up to one that is stopped. -/
def actAll (w : Workspace) : List Action → Workspace × Except Fault Unit
  | [] => (w, .ok ())
  | action :: rest =>
    match w.act action with
    | (w, .ok ()) => w.actAll rest
    | (w, .error fault) => (w, .error fault)

end

end Workspace

end RecordRules
