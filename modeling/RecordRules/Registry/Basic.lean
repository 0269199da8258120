import RecordRules.Model.Checked

/-!
# The registry of rules

Which rules are disabled, and which are notice rules, whose failures count as warnings. A rule
is known by its name; a rule without a name can be neither.

The settings of a rule are a thing of their own, to which its name refers. They are changed in place,
so two names that refer to the same settings change together; a suspension puts copies in the place
of settings, which it keeps, and afterwards puts back the ones that it has kept.
-/

namespace RecordRules

/-- What is set for a rule. -/
structure Settings where
  disabled : Bool := false
  deriving DecidableEq

/-- Disabled rules and notice rules. -/
structure Registry where
  /-- Known rule names in the order of first mention, each with the reference of its settings. -/
  rules : List (Value × Nat)
  /-- Settings by reference, those that no name refers to any more among them. -/
  settings : List Settings
  notices : List Value

namespace Registry

/-- The registry that knows no rules. -/
def empty : Registry := ⟨[], [], []⟩

/-- The reference of the settings of a name. -/
def reference? (r : Registry) (name : Value) : Option Nat :=
  (r.rules.find? fun (n, _) => Value.same n name).map (·.2)

/-- The settings of a reference. -/
def settingsAt (r : Registry) (reference : Nat) : Settings := r.settings.getD reference {}

/-- The settings of a name. -/
def setting? (r : Registry) (name : Value) : Option Settings :=
  (r.reference? name).map r.settingsAt

/-- Whether the rule of a name is disabled. -/
def isDisabled (r : Registry) (name : Value) : Except Fault Bool :=
  if name.truthy then do
    let name ← name.asKey
    return (r.setting? name).any (·.disabled)
  else .ok false

/-- Whether the rule of a name is a notice rule. -/
def isNotice (r : Registry) (name : Value) : Bool := name.truthy && name.memberOf r.notices

/-! ## Changes -/

/-- References with one for a name in the place of the former one, or at the end. -/
def putReference (rules : List (Value × Nat)) (name : Value) (reference : Nat) :
    List (Value × Nat) :=
  match rules with
  | [] => [(name, reference)]
  | (n, i) :: rest =>
    if Value.same n name then (n, reference) :: rest else (n, i) :: putReference rest name reference

/-- The registry in which a name refers to some settings. -/
def refer (r : Registry) (name : Value) (reference : Nat) : Registry :=
  { r with rules := putReference r.rules name reference }

/-- The registry in which a name refers to further settings, which are its own. -/
def give (r : Registry) (name : Value) (settings : Settings) : Registry :=
  { r with settings := r.settings ++ [settings] }.refer name r.settings.length

/-- The registry in which a name is known, and the reference of its settings. -/
def known (r : Registry) (name : Value) : Registry × Nat :=
  match r.reference? name with
  | some reference => (r, reference)
  | none => (r.give name {}, r.settings.length)

/-- The registry with other settings of a reference. -/
def alter (r : Registry) (reference : Nat) (settings : Settings) : Registry :=
  { r with settings := r.settings.set reference settings }

/-- Sets whether the rule of a name is disabled. Its settings are changed in place, and made if there
    are none. -/
def set (r : Registry) (name : Value) (disabled : Bool) : Registry :=
  let (r, reference) := r.known name
  r.alter reference { r.settingsAt reference with disabled }

/-- Sets whether rules are disabled, one after another up to one whose name cannot be one. -/
def setAll (r : Registry) (disabled : Bool) : List Value → Registry × Except Fault Unit
  | [] => (r, .ok ())
  | name :: rest =>
    match name.asKey with
    | .ok name => (r.set name disabled).setAll disabled rest
    | .error e => (r, .error e)

/-- Disables rules. -/
def disable (r : Registry) (names : List Value) : Registry × Except Fault Unit :=
  r.setAll true names

/-- Enables rules. -/
def enable (r : Registry) (names : List Value) : Registry × Except Fault Unit :=
  r.setAll false names

/-- Adds notice rules. -/
def addNotices (r : Registry) (names : List Value) : Registry :=
  { r with notices := r.notices ++ names }

/-- Forgets the rule of a name. -/
def forget (r : Registry) (name : Value) : Registry :=
  { r with rules := r.rules.filter fun (n, _) => !Value.same n name }

/-! ## Suspension -/

/-- The settings to which some names referred before they were suspended. -/
abbrev Saved := List (Value × Option Nat)

/-- The settings to which each of some names refers, names that are the same once. -/
def save (r : Registry) (names : List Value) : Except Fault Saved := do
  let names ← names.mapM Value.asKey
  return (Value.distinct names).map fun name => (name, r.reference? name)

/-- The registry in which a name refers to settings that are disabled: a copy of the former ones, if
    there were some. -/
def replace (r : Registry) (name : Value) (former : Option Settings) : Registry :=
  r.give name { former.getD {} with disabled := true }

/-- Disables rules for a while: the settings to put back, and the registry meanwhile. -/
def suspend (r : Registry) (names : List Value) : Except Fault (Saved × Registry) := do
  let saved ← r.save names
  return (saved, names.foldl (fun meanwhile name => meanwhile.replace name (r.setting? name)) r)

/-- Puts back the settings from before a suspension; names that had none are forgotten. -/
def restore (r : Registry) (saved : Saved) : Registry :=
  saved.foldl (fun r (name, reference) =>
    match reference with
    | none => r.forget name
    | some reference => r.refer name reference) r

/-! ## From data -/

/-- The settings of one rule. -/
def settingsOf (v : Value) : Checked Settings := do
  let fields ← v.asFields "RuleSettings"
  (fields.optional "disabled" false Value.asBool).map Settings.mk

/-- The registry of some named settings, which no two names share. -/
def ofNamed (rules : Named Settings) (notices : List String) : Registry where
  rules := (rules.map fun (name, _) => Value.text name).zipIdx
  settings := rules.map (·.2)
  notices := notices.map .text

/-- A registry from its fields. -/
def ofFields (fields : Entries) : Checked Registry :=
  (Checked.both (fields.optional "rules" [] (Value.asNamed settingsOf))
    (fields.optional "notice_rules" [] (Value.asListOf Value.asText))).map
      fun (rules, notices) => ofNamed rules notices

/-- A registry from what a file holds: nothing, or a mapping. -/
def ofDocument (path : String) (document : Value) : Except Fault Registry :=
  match document.orElse (.dict []) with
  | .dict fields => Checked.orFault "Configuration" (ofFields fields)
  | _ => .error (.notMapping path)

end Registry

end RecordRules
