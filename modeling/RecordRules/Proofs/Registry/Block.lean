import Mathlib
import RecordRules.Proofs.Registry.Suspension
import RecordRules.Registry.Block

/-!
# Suspensions around a block

A suspension around a block gives its names back the settings that they had, as they were, and leaves
everything else as the block by itself would have left it. Every action keeps the suspensions that
have not ended (`suspensions_act`), so a block ends on what it began with; it reaches no settings that
are kept for the end of a suspension (`evolves_actAll`); and two workspaces that differ at most in
what one registry notes of some names still do after the same actions (`AgreeBut.actAll`). All this is
so in a registry in which no two names share settings (`shared_settings_not_restored`).
-/

namespace RecordRules

namespace Workspace

variable {w v : Workspace} {id : Nat} {names : List Value}

/-! ## Registries by identity -/

theorem registry_put_self (w : Workspace) (id : Nat) (r : Registry) :
    (w.put id r).registry id = if id < w.registries.length then r else .empty := by
  by_cases there : id < w.registries.length <;> simp [put, registry, there]

theorem registry_put_other {other : Nat} (differ : other ≠ id) (r : Registry) :
    (w.put id r).registry other = w.registry other := by
  simp [put, registry, List.getD_eq_getElem?_getD, List.getElem?_set_ne differ.symm]

theorem length_put (w : Workspace) (id : Nat) (r : Registry) :
    (w.put id r).registries.length = w.registries.length :=
  List.length_set

theorem registry_reset (w : Workspace) (id : Nat) : w.reset.1.registry id = w.registry id := by
  unfold reset add registry
  simp only [List.getD_eq_getElem?_getD]
  by_cases there : id < w.registries.length
  · rw [List.getElem?_append_left there]
  · -- The registry that is new is as empty as one that is not there.
    rw [List.getElem?_append_right (Nat.le_of_not_lt there),
      List.getElem?_eq_none (Nat.le_of_not_lt there)]
    cases id - w.registries.length <;> rfl

theorem length_reset (w : Workspace) :
    w.reset.1.registries.length = w.registries.length + 1 :=
  List.length_append

theorem meant_cases (w : Workspace) (target : Option Nat) :
    (w.meant target).1 = w ∨ w.meant target = w.reset := by
  cases target with
  | some id => exact .inl rfl
  | none =>
    unfold meant current
    cases w.current? with
    | some id => exact .inl rfl
    | none => exact .inr rfl

theorem registry_meant (w : Workspace) (target : Option Nat) (id : Nat) :
    (w.meant target).1.registry id = w.registry id := by
  rcases meant_cases w target with same | isReset
  · rw [same]
  · rw [isReset]
    exact registry_reset w id

theorem length_meant (w : Workspace) (target : Option Nat) :
    w.registries.length ≤ (w.meant target).1.registries.length := by
  rcases meant_cases w target with same | isReset
  · exact Nat.le_of_eq (by rw [same])
  · exact Nat.le_of_lt (by rw [isReset, length_reset]; exact Nat.lt_succ_self _)

theorem suspensions_meant (w : Workspace) (target : Option Nat) :
    (w.meant target).1.suspensions = w.suspensions := by
  rcases meant_cases w target with same | isReset
  · rw [same]
  · rw [isReset]
    rfl

/-! ## Beginning and end of a suspension -/

/-- The workspace in which rules of a registry are suspended. -/
def within (w : Workspace) (id : Nat) (names : List Value) : Workspace :=
  { w.put id ((w.registry id).suspended names) with
    suspensions := ⟨id, (w.registry id).noted names⟩ :: w.suspensions }

/-- The workspace after the last suspension has ended. -/
def resumed (w : Workspace) (s : Suspension) (rest : List Suspension) : Workspace :=
  { w.put s.registry ((w.registry s.registry).restore s.saved) with suspensions := rest }

theorem suspend_of_changeable (w : Workspace) (id : Nat) {kind : String}
    (noKey : Value.firstChangeable? names = some kind) :
    w.suspend id names = .error (.unhashable kind) := by
  unfold suspend
  rw [Registry.suspend_of_changeable _ noKey]
  rfl

theorem suspend_of_keys (w : Workspace) (id : Nat)
    (keys : Value.firstChangeable? names = none) : w.suspend id names = .ok (w.within id names) := by
  unfold suspend
  rw [Registry.suspend_of_keys _ keys]
  rfl

theorem resume?_eq {s : Suspension} {rest : List Suspension} (last : w.suspensions = s :: rest) :
    w.resume? = some (w.resumed s rest, s.registry) := by
  unfold resume?
  rw [last]
  rfl

theorem act_suspending (w : Workspace) (target : Option Nat) (names : List Value)
    (block : List Action) :
    w.act (.suspending target names block)
      = (w.meant target).1.during (w.meant target).2 names fun entered => entered.actAll block := by
  rw [act]

theorem during_of_changeable {kind : String} (program : Workspace → Workspace × Except Fault Unit)
    (noKey : Value.firstChangeable? names = some kind) :
    w.during id names program = (w, .error (.unhashable kind)) := by
  rw [during, suspend_of_changeable w id noKey]

/-- A program that ends the suspensions that it begins runs within the one around it, which ends
    after it; the outcome is its own. -/
theorem during_of_keys {program : Workspace → Workspace × Except Fault Unit}
    (keys : Value.firstChangeable? names = none)
    (ends : (program (w.within id names)).1.suspensions = (w.within id names).suspensions) :
    w.during id names program =
      ((program (w.within id names)).1.resumed ⟨id, (w.registry id).noted names⟩ w.suspensions,
        (program (w.within id names)).2) := by
  rw [during, suspend_of_keys w id keys]
  dsimp only
  rw [resume?_eq ends]
  rfl

/-! ## Suspensions that have not ended -/

mutual

/-- An action ends the suspensions that it begins, and no others. -/
theorem suspensions_act (w : Workspace) (action : Action) :
    (w.act action).1.suspensions = w.suspensions := by
  cases action with
  | setAll target disabled given => exact suspensions_meant w target
  | addNotices target given => exact suspensions_meant w target
  | reset => rfl
  | stop fault => rfl
  | suspending target given block =>
    rw [act_suspending]
    cases keys : Value.firstChangeable? given with
    | some kind =>
      rw [during_of_changeable _ keys]
      exact suspensions_meant w target
    | none =>
      have ends := suspensions_actAll ((w.meant target).1.within (w.meant target).2 given) block
      rw [during_of_keys keys ends]
      exact suspensions_meant w target

theorem suspensions_actAll (w : Workspace) (block : List Action) :
    (w.actAll block).1.suspensions = w.suspensions := by
  cases block with
  | nil => rfl
  | cons action rest =>
    have first := suspensions_act w action
    rw [actAll]
    split
    next next acted =>
      rw [acted] at first
      exact (suspensions_actAll next rest).trans first
    next stopped fault acted => rwa [acted] at first

end

/-! ## What actions make of a registry -/

section

variable (there : id < w.registries.length)
include there

theorem registry_within_self (names : List Value) :
    (w.within id names).registry id = (w.registry id).suspended names :=
  (registry_put_self w id _).trans (if_pos there)

theorem registry_resumed_self (saved : Registry.Saved) (rest : List Suspension) :
    (w.resumed ⟨id, saved⟩ rest).registry id = (w.registry id).restore saved :=
  (registry_put_self w id _).trans (if_pos there)

theorem evolves_put (own : (w.registry id).Own) (target : Nat) {r : Registry}
    (evolves : target = id → (w.registry id).Evolves r) :
    (w.registry id).Evolves ((w.put target r).registry id) := by
  by_cases isOwn : target = id
  · subst isOwn
    rw [registry_put_self, if_pos there]
    exact evolves rfl
  · rw [registry_put_other (Ne.symm isOwn)]
    exact .refl own

end

mutual

/-- An action does to a registry what operations on it do. -/
theorem evolves_act {w : Workspace} (there : id < w.registries.length)
    (own : (w.registry id).Own) (action : Action) :
    id < (w.act action).1.registries.length ∧
      (w.registry id).Evolves ((w.act action).1.registry id) := by
  have thereMeant (target : Option Nat) : id < (w.meant target).1.registries.length :=
    Nat.lt_of_lt_of_le there (length_meant w target)
  have ownMeant (target : Option Nat) : ((w.meant target).1.registry id).Own :=
    (registry_meant w target id).symm ▸ own
  cases action with
  | setAll target disabled given =>
    rw [act, ← registry_meant w target id]
    refine ⟨(length_put _ _ _).symm ▸ thereMeant target, ?_⟩
    refine evolves_put (thereMeant target) (ownMeant target) _ fun isOwn => ?_
    rw [isOwn]
    exact .setAll (ownMeant target) disabled given
  | addNotices target given =>
    rw [act, ← registry_meant w target id]
    refine ⟨(length_put _ _ _).symm ▸ thereMeant target, ?_⟩
    refine evolves_put (thereMeant target) (ownMeant target) _ fun isOwn => ?_
    rw [isOwn]
    exact .addNotices (ownMeant target) given
  | reset =>
    refine ⟨(length_reset w).symm ▸ Nat.lt_succ_of_lt there, ?_⟩
    exact (registry_reset w id).symm ▸ .refl own
  | stop fault => exact ⟨there, .refl own⟩
  | suspending target given block =>
    rw [act_suspending, ← registry_meant w target id]
    generalize (w.meant target).2 = chosen
    have thereEntry := thereMeant target
    have ownEntry := ownMeant target
    generalize (w.meant target).1 = entry at thereEntry ownEntry ⊢
    cases keys : Value.firstChangeable? given with
    | some kind =>
      rw [during_of_changeable _ keys]
      exact ⟨thereEntry, .refl ownEntry⟩
    | none =>
      have allKeys := Value.firstChangeable?_eq_none_iff.mp keys
      have begun : (entry.registry id).Evolves ((entry.within chosen given).registry id) := by
        refine evolves_put thereEntry ownEntry chosen fun isOwn => ?_
        rw [isOwn]
        exact .suspended ownEntry allKeys
      obtain ⟨thereLeft, evolves⟩ :=
        evolves_actAll ((length_put entry chosen _).symm ▸ thereEntry) begun.own block
      rw [during_of_keys keys (suspensions_actAll _ block)]
      refine ⟨(length_put _ _ _).symm ▸ thereLeft, ?_⟩
      by_cases isOwn : chosen = id
      · -- What was kept is put back in this registry.
        subst isOwn
        rw [registry_resumed_self thereLeft]
        rw [registry_within_self thereEntry] at evolves
        exact .restore ownEntry allKeys evolves
      · have elsewhere := begun.trans evolves
        exact (registry_put_other (Ne.symm isOwn) _).symm ▸ elsewhere

theorem evolves_actAll {w : Workspace} (there : id < w.registries.length)
    (own : (w.registry id).Own) (block : List Action) :
    id < (w.actAll block).1.registries.length ∧
      (w.registry id).Evolves ((w.actAll block).1.registry id) := by
  cases block with
  | nil => exact ⟨there, .refl own⟩
  | cons action rest =>
    obtain ⟨thereNext, evolves⟩ := evolves_act there own action
    rw [actAll]
    split
    next next acted =>
      rw [acted] at thereNext evolves
      obtain ⟨thereLast, later⟩ := evolves_actAll thereNext evolves.own rest
      exact ⟨thereLast, evolves.trans later⟩
    next stopped fault acted =>
      rw [acted] at thereNext evolves
      exact ⟨thereNext, evolves⟩

end

/-! ## Two workspaces under the same actions -/

/-- Two workspaces that differ at most in what one registry notes of some names, and in the
    suspensions that have not ended. -/
structure AgreeBut (id : Nat) (names : List Value) (w v : Workspace) : Prop where
  there : id < w.registries.length
  count : w.registries.length = v.registries.length
  current : w.current? = v.current?
  own : Registry.AgreeBut names (w.registry id) (v.registry id)
  others : ∀ other, other ≠ id → w.registry other = v.registry other

namespace AgreeBut

theorem reset (agree : AgreeBut id names w v) : AgreeBut id names w.reset.1 v.reset.1 where
  there := by rw [length_reset]; exact Nat.lt_succ_of_lt agree.there
  count := by rw [length_reset, length_reset, agree.count]
  current := congrArg some agree.count
  own := by rw [registry_reset, registry_reset]; exact agree.own
  others other differ := by rw [registry_reset, registry_reset, agree.others other differ]

theorem put (agree : AgreeBut id names w v) (target : Nat) {r s : Registry}
    (own : target = id → Registry.AgreeBut names r s) (others : target ≠ id → r = s) :
    AgreeBut id names (w.put target r) (v.put target s) where
  there := by rw [length_put]; exact agree.there
  count := by rw [length_put, length_put, agree.count]
  current := agree.current
  own := by
    by_cases isOwn : target = id
    · subst isOwn
      rw [registry_put_self, registry_put_self, ← agree.count, if_pos agree.there,
        if_pos agree.there]
      exact own rfl
    · rw [registry_put_other (Ne.symm isOwn), registry_put_other (Ne.symm isOwn)]
      exact agree.own
  others other differ := by
    by_cases isTarget : other = target
    · subst isTarget
      rw [registry_put_self, registry_put_self, agree.count, others differ]
    · rw [registry_put_other isTarget, registry_put_other isTarget]
      exact agree.others other differ

theorem of_within {entry : Workspace} (there : id < entry.registries.length)
    (own : (entry.registry id).Own) (keys : ∀ n ∈ names, n.changeable? = none) :
    AgreeBut id names (entry.within id names) entry where
  there := (length_put entry id _).symm ▸ there
  count := length_put entry id _
  current := rfl
  own := by
    rw [registry_within_self there]
    exact .of_suspended own keys
  others other differ := registry_put_other differ _

/-- What is meant is the same registry, and they agree on every registry. -/
theorem meant (agree : AgreeBut id names w v) (target : Option Nat) :
    AgreeBut id names (w.meant target).1 (v.meant target).1 ∧
      (w.meant target).2 = (v.meant target).2 := by
  cases target with
  | some given => exact ⟨agree, rfl⟩
  | none =>
    unfold Workspace.meant Workspace.current
    rw [← agree.current]
    cases w.current? with
    | some given => exact ⟨agree, rfl⟩
    | none => exact ⟨agree.reset, agree.count⟩

theorem setAll (agree : AgreeBut id names w v) (target : Nat) (disabled : Bool)
    (given : List Value) :
    AgreeBut id names (w.setAll target disabled given).1 (v.setAll target disabled given).1 ∧
      (w.setAll target disabled given).2 = (v.setAll target disabled given).2 := by
  by_cases isOwn : target = id
  · subst isOwn
    have settings := agree.own.setAll disabled given
    exact ⟨agree.put target (fun _ => settings.1) fun differ => absurd rfl differ, settings.2⟩
  · have same := agree.others target isOwn
    refine ⟨agree.put target (fun is => absurd is isOwn) fun _ => by rw [same], ?_⟩
    unfold Workspace.setAll
    rw [same]

theorem addNotices (agree : AgreeBut id names w v) (target : Nat) (given : List Value) :
    AgreeBut id names (w.addNotices target given) (v.addNotices target given) := by
  refine agree.put target (fun isOwn => ?_) fun differ => ?_
  · rw [isOwn]
    exact agree.own.addNotices given
  · rw [agree.others target differ]

theorem within (agree : AgreeBut id names w v) (target : Nat) {given : List Value}
    (keys : ∀ n ∈ given, n.changeable? = none) :
    AgreeBut id names (w.within target given) (v.within target given) := by
  have same := agree.put (r := (w.registry target).suspended given)
    (s := (v.registry target).suspended given) target
    (fun isOwn => by rw [isOwn]; exact agree.own.suspended keys) fun differ => by
      rw [agree.others target differ]
  exact ⟨same.there, same.count, same.current, same.own, same.others⟩

/-- A suspension that began in agreement ends in agreement. -/
theorem resumed (agree : AgreeBut id names w v) {entry other : Workspace}
    (began : AgreeBut id names entry other) (target : Nat) {given : List Value}
    (keys : ∀ n ∈ given, n.changeable? = none)
    (evolves : ((entry.within target given).registry id).Evolves (w.registry id))
    (evolvesToo : ((other.within target given).registry id).Evolves (v.registry id))
    (rest others : List Suspension) :
    AgreeBut id names (w.resumed ⟨target, (entry.registry target).noted given⟩ rest)
      (v.resumed ⟨target, (other.registry target).noted given⟩ others) := by
  have own (isOwn : target = id) :
      Registry.AgreeBut names
        ((w.registry target).restore ((entry.registry target).noted given))
        ((v.registry target).restore ((other.registry target).noted given)) := by
    subst isOwn
    rw [registry_within_self began.there] at evolves
    rw [registry_within_self (began.count ▸ began.there)] at evolvesToo
    exact agree.own.restore began.own keys evolves evolvesToo
  have same := agree.put target own fun differ => by
    rw [agree.others target differ, began.others target differ]
  exact ⟨same.there, same.count, same.current, same.own, same.others⟩

mutual

/-- An action comes to the same end in both, and keeps them in agreement. -/
theorem act {w v : Workspace} (agree : AgreeBut id names w v) (action : Action) :
    AgreeBut id names (w.act action).1 (v.act action).1 ∧
      (w.act action).2 = (v.act action).2 := by
  cases action with
  | setAll target disabled given =>
    obtain ⟨here, same⟩ := agree.meant target
    rw [Workspace.act, Workspace.act]
    dsimp only
    rw [same]
    exact here.setAll _ disabled given
  | addNotices target given =>
    obtain ⟨here, same⟩ := agree.meant target
    rw [Workspace.act, Workspace.act]
    dsimp only
    rw [same]
    exact ⟨here.addNotices _ given, rfl⟩
  | reset => exact ⟨agree.reset, rfl⟩
  | stop fault => exact ⟨agree, rfl⟩
  | suspending target given block =>
    obtain ⟨here, same⟩ := agree.meant target
    rw [act_suspending, act_suspending, same]
    cases keys : Value.firstChangeable? given with
    | some kind =>
      rw [during_of_changeable _ keys, during_of_changeable _ keys]
      exact ⟨here, rfl⟩
    | none =>
      have allKeys := Value.firstChangeable?_eq_none_iff.mp keys
      have begun := here.within (v.meant target).2 allKeys
      obtain ⟨left, outcome⟩ := begun.actAll block
      have evolves := (evolves_actAll begun.there begun.own.own block).2
      have evolvesToo := (evolves_actAll (begun.count ▸ begun.there) begun.own.ownToo block).2
      rw [during_of_keys keys (suspensions_actAll _ block),
        during_of_keys keys (suspensions_actAll _ block)]
      exact ⟨left.resumed here _ allKeys evolves evolvesToo _ _, outcome⟩

theorem actAll {w v : Workspace} (agree : AgreeBut id names w v) (block : List Action) :
    AgreeBut id names (w.actAll block).1 (v.actAll block).1 ∧
      (w.actAll block).2 = (v.actAll block).2 := by
  cases block with
  | nil => exact ⟨agree, rfl⟩
  | cons action rest =>
    obtain ⟨next, same⟩ := agree.act action
    rw [Workspace.actAll, Workspace.actAll]
    revert next same
    rcases w.act action with ⟨here, outcome⟩
    rcases v.act action with ⟨there, other⟩
    rintro next rfl
    cases outcome with
    | ok done => exact next.actAll rest
    | error fault => exact ⟨next, rfl⟩

end

end AgreeBut

/-! ## A suspension around a block -/

/-- What a suspension of some names of a registry around a block leaves, from the workspace in which
    it begins and the one that the block by itself would have left. -/
structure Restored (id : Nat) (names : List Value) (entry plain after : Workspace) : Prop where
  /-- A name of the list, or one that is the same, has the very settings that it had, and they are
      what they were; if it had none, it has none. -/
  listed : ∀ name : Value, name.changeable? = none → name.memberOf names = true →
    (after.registry id).reference? name = (entry.registry id).reference? name ∧
      (after.registry id).setting? name = (entry.registry id).setting? name
  unlisted : ∀ name : Value, name.changeable? = none → name.memberOf names = false →
    (after.registry id).setting? name = (plain.registry id).setting? name
  notices : (after.registry id).notices = (plain.registry id).notices
  /-- Other registries are left alone, those that the block has made among them. -/
  others : ∀ other, other ≠ id → after.registry other = plain.registry other
  count : after.registries.length = plain.registries.length
  current : after.current? = plain.current?
  suspensions : after.suspensions = entry.suspensions
  /-- Still no two names share settings. -/
  own : (after.registry id).Own

theorem isDisabled_within {entry : Workspace} (there : id < entry.registries.length)
    (own : (entry.registry id).Own) (keys : ∀ n ∈ names, n.changeable? = none) {name : Value}
    (member : name ∈ names) (filled : name.truthy = true) :
    ((entry.within id names).registry id).isDisabled name = .ok true := by
  have key := keys name member
  have listed : name.memberOf names = true :=
    List.any_eq_true.mpr ⟨name, member, Value.same_self key⟩
  rw [registry_within_self there, Registry.isDisabled_of_key _ key filled,
    Registry.setting?_suspended own keys key, if_pos listed]
  rfl

theorem restored_of_resumed {entry left plain : Workspace} (there : id < entry.registries.length)
    (own : (entry.registry id).Own) (keys : ∀ n ∈ names, n.changeable? = none)
    (agree : AgreeBut id names left plain)
    (evolves : ((entry.within id names).registry id).Evolves (left.registry id)) :
    Restored id names entry plain
      (left.resumed ⟨id, (entry.registry id).noted names⟩ entry.suspensions) := by
  have back := registry_resumed_self agree.there ((entry.registry id).noted names) entry.suspensions
  have others : ∀ other, other ≠ id →
      (left.resumed ⟨id, (entry.registry id).noted names⟩ entry.suspensions).registry other
        = left.registry other :=
    fun other differ => registry_put_other differ _
  rw [registry_within_self there] at evolves
  constructor
  · intro name key listed
    rw [back, Registry.reference?_restore_noted _ _ keys key, if_pos listed,
      Registry.setting?_restore_noted own keys evolves key, if_pos listed]
    exact ⟨rfl, rfl⟩
  · intro name key unlisted
    rw [back, Registry.setting?_restore_noted own keys evolves key,
      if_neg (Bool.eq_false_iff.mp unlisted)]
    exact agree.own.settings name key unlisted
  · rw [back, Registry.notices_restore]
    exact agree.own.notices
  · intro other differ
    rw [others other differ]
    exact agree.others other differ
  · exact (length_put left id _).trans agree.count
  · exact agree.current
  · rfl
  · rw [back]
    exact Registry.own_restore own keys evolves

/-- In a registry in which no two names share settings, a suspension of names that are not all keys
    changes nothing. Any other one disables its names, lets its block come to the end that it would
    have come to by itself, with a fault or without, and then gives the names back their settings in
    the registry that was meant when it began, and changes nothing else. -/
theorem suspension_restores (w : Workspace) (target : Option Nat) (names : List Value)
    (block : List Action) (there : (w.meant target).2 < (w.meant target).1.registries.length)
    (own : ((w.meant target).1.registry (w.meant target).2).Own) :
    let entry := (w.meant target).1
    let id := (w.meant target).2
    let plain := entry.actAll block
    let after := w.act (.suspending target names block)
    (∀ kind, Value.firstChangeable? names = some kind →
      after = (entry, .error (.unhashable kind))) ∧
    (Value.firstChangeable? names = none →
      (∃ entered, entry.suspend id names = .ok entered ∧
        ∀ name ∈ names, name.truthy = true →
          (entered.registry id).isDisabled name = .ok true) ∧
      after.2 = plain.2 ∧
      Restored id names entry plain.1 after.1) := by
  intro entry id plain after
  have runs : after = entry.during id names fun entered => entered.actAll block :=
    act_suspending w target names block
  constructor
  · intro kind noKey
    rw [runs, during_of_changeable _ noKey]
  · intro keys
    have allKeys := Value.firstChangeable?_eq_none_iff.mp keys
    have begins := suspend_of_keys entry id keys
    -- When it begins, the workspace differs from the one outside in the names alone.
    have begun := AgreeBut.of_within there own allKeys
    obtain ⟨left, outcome⟩ := begun.actAll block
    have evolves := (evolves_actAll begun.there begun.own.own block).2
    have ends : after =
        (((entry.within id names).actAll block).1.resumed
          ⟨id, (entry.registry id).noted names⟩ entry.suspensions,
          ((entry.within id names).actAll block).2) :=
      runs.trans (during_of_keys keys (suspensions_actAll _ block))
    refine ⟨⟨_, begins, fun name => isDisabled_within there own allKeys⟩, ?_, ?_⟩
    · rw [ends]
      exact outcome
    · rw [ends]
      exact restored_of_resumed there own allKeys left evolves

/-- A block that undoes, repeats and replaces what stands around it, and then is stopped. -/
def unruly : List Action :=
  [.setAll none false [.text "start", .text "end"], .suspending none [.text "start"] [.reset],
    .setAll none true [.text "start"], .stop (.missingKey "end")]

theorem unruly_restored :
    let w : Workspace := ⟨[⟨[(.text "start", 0)], [⟨false⟩], []⟩], some 0, []⟩
    let after := w.act (.suspending none [.text "end", .text "start"] unruly)
    (w.meant none).2 < (w.meant none).1.registries.length ∧
      ((w.meant none).1.registry (w.meant none).2).Own ∧
      after.2 = .error (.missingKey "end") ∧
      (after.1.registry 0).reference? (.text "start") = some 0 ∧
      (after.1.registry 0).setting? (.text "start") = some ⟨false⟩ ∧
      (after.1.registry 0).setting? (.text "end") = none ∧
      (after.1.registry 1).setting? (.text "start") = some ⟨true⟩ := by
  intro w after
  have there : (w.meant none).2 < (w.meant none).1.registries.length := by decide
  have entry : (w.meant none).1.registry (w.meant none).2
      = ⟨[(.text "start", 0)], [⟨false⟩], []⟩ := rfl
  have own : ((w.meant none).1.registry (w.meant none).2).Own := by
    rw [entry]
    exact Registry.own_of_nodup (by simp) (by simp)
  obtain ⟨_, rest⟩ :=
    suspension_restores w none [.text "end", .text "start"] unruly there own
  obtain ⟨_, outcome, restored⟩ := rest rfl
  obtain ⟨sameSettings, asTheyWere⟩ :=
    restored.listed (.text "start") rfl (by simp [Value.memberOf, Value.same_text_self])
  obtain ⟨_, unknown⟩ :=
    restored.listed (.text "end") rfl (by simp [Value.memberOf, Value.same_text_self])
  rw [entry] at sameSettings asTheyWere unknown
  refine ⟨there, own, outcome.trans (by cbv), sameSettings.trans (by cbv),
    asTheyWere.trans (by cbv), unknown.trans (by cbv), ?_⟩
  have plain : ((w.meant none).1.actAll unruly).1.registry 1
      = ⟨[(.text "start", 0)], [⟨true⟩], []⟩ := by cbv
  rw [restored.others 1 (by decide), plain]
  cbv

/-- Two names for the same settings, which are not disabled. -/
def sharing : Workspace :=
  ⟨[⟨[(.text "start", 0), (.text "end", 0)], [⟨false⟩], []⟩], some 0, []⟩

/-- Where two names share settings, a block can change those of a name that is suspended through the
    other name; and a name that counts as false, though it is not empty, is not disabled. -/
theorem shared_settings_not_restored :
    (¬∀ (w : Workspace) (names : List Value) (block : List Action) (name : Value),
      Value.firstChangeable? names = none → name ∈ names →
      ((w.act (.suspending (some 0) names block)).1.registry 0).setting? name
        = (w.registry 0).setting? name) ∧
    ¬∀ (w entered : Workspace) (names : List Value), w.suspend 0 names = .ok entered →
      ∀ name ∈ names, name ≠ .text "" → (entered.registry 0).isDisabled name = .ok true := by
  constructor
  · intro restores
    have restored := restores sharing [.text "start"] [.setAll (some 0) true [.text "end"]]
      (.text "start") (by cbv) (by simp)
    have after : ((sharing.act (.suspending (some 0) [.text "start"]
        [.setAll (some 0) true [.text "end"]])).1.registry 0).setting? (.text "start")
          = some ⟨true⟩ := by cbv
    have before : (sharing.registry 0).setting? (.text "start") = some ⟨false⟩ := by cbv
    cases after.symm.trans (restored.trans before)
  · intro disables
    have begins : Workspace.suspend ⟨[.empty], none, []⟩ 0 [.int 0] = .ok _ :=
      suspend_of_keys _ 0 (by cbv)
    cases disables _ _ [.int 0] begins (.int 0) (by simp) (by simp)

end Workspace

end RecordRules
