import RecordRules.Proofs.Registry.Setting

/-!
# Suspending rules in a registry

A suspension keeps the settings of its names and puts disabled copies in their place
(`replaced_suspended`). What is done meanwhile reaches and changes only settings that can be reached
and new ones (`Evolves`), so the settings that were kept are afterwards what they were, and when they
are put back, no two names share any (`Evolves.restore`). Registries that agree on some names still
agree on them after the same operations (`AgreeBut`).
-/

namespace RecordRules

namespace Registry

variable {r s q : Registry} {names : List Value} {name : Value}

/-! ## The beginning -/

/-- The settings to which each of some names refers when they are suspended. -/
def noted (r : Registry) (names : List Value) : Saved :=
  (Value.distinct names).map fun name => (name, r.reference? name)

/-- The registry with copies of the settings of some names, which are disabled. -/
def suspended (r : Registry) (names : List Value) : Registry :=
  names.foldl (fun meanwhile name => meanwhile.replace name (r.setting? name)) r

/-- A suspension does not begin if one of the names is no key. -/
theorem suspend_of_changeable (r : Registry) {kind : String}
    (noKey : Value.firstChangeable? names = some kind) :
    r.suspend names = .error (.unhashable kind) := by
  unfold suspend save
  rw [Value.mapM_asKey, noKey]
  rfl

theorem suspend_of_keys (r : Registry) (keys : Value.firstChangeable? names = none) :
    r.suspend names = .ok (r.noted names, r.suspended names) := by
  unfold suspend save
  rw [Value.mapM_asKey, keys]
  rfl

/-- One registry with settings of their own for some names, in the place of those in another. -/
structure Replaced (names : List Value) (r q : Registry) : Prop where
  own : q.Own
  longer : r.settings.length ≤ q.settings.length
  listed : ∀ {name}, name.changeable? = none → name.memberOf names = true →
    ∃ reference, q.reference? name = some reference ∧ r.settings.length ≤ reference ∧
      q.settingsAt reference = ⟨true⟩
  unlisted : ∀ {name}, name.changeable? = none → name.memberOf names = false →
    q.reference? name = r.reference? name
  kept : ∀ reference < r.settings.length, q.settingsAt reference = r.settingsAt reference
  notices : q.notices = r.notices

theorem Replaced.nil (own : r.Own) : Replaced [] r r where
  own := own
  longer := Nat.le_refl _
  listed _ member := by cases member
  unlisted _ _ := rfl
  kept _ _ := rfl
  notices := rfl

theorem memberOf_append (v : Value) (values others : List Value) :
    v.memberOf (values ++ others) = (v.memberOf values || v.memberOf others) :=
  List.any_append

theorem Replaced.replace (replaced : Replaced names r q) (key : name.changeable? = none)
    (former : Option Settings) : Replaced (names ++ [name]) r (q.replace name former) where
  own := own_give replaced.own _ key
  longer := by
    rw [Registry.replace, length_give]
    exact Nat.le_succ_of_le replaced.longer
  listed {other} otherKey member := by
    rw [memberOf_append] at member
    have refers := reference?_give q ⟨true⟩ key otherKey
    cases alike : Value.same name other with
    | true =>
      rw [alike, if_pos rfl] at refers
      exact ⟨_, refers, replaced.longer, settingsAt_give_new q name _⟩
    | false =>
      rw [alike, if_neg Bool.false_ne_true] at refers
      have before : other.memberOf names = true := by
        simpa [Value.memberOf, alike] using member
      obtain ⟨reference, found, new, disabled⟩ := replaced.listed otherKey before
      refine ⟨reference, refers.trans found, new, ?_⟩
      exact (settingsAt_give_of_lt _ (replaced.own.held otherKey found)).trans disabled
  unlisted {other} otherKey apart := by
    rw [memberOf_append, Bool.or_eq_false_iff] at apart
    have differs : Value.same name other = false := by simpa [Value.memberOf] using apart.2
    refine (reference?_give q ⟨true⟩ key otherKey).trans ?_
    rw [differs, if_neg Bool.false_ne_true]
    exact replaced.unlisted otherKey apart.1
  kept reference there :=
    (settingsAt_give_of_lt _ (Nat.lt_of_lt_of_le there replaced.longer)).trans
      (replaced.kept reference there)
  notices := replaced.notices

theorem replaced_foldl (replaced : Replaced names r q) (former : Value → Option Settings)
    {others : List Value} (keys : ∀ n ∈ others, n.changeable? = none) :
    Replaced (names ++ others) r
      (others.foldl (fun meanwhile name => meanwhile.replace name (former name)) q) := by
  induction others generalizing names q with
  | nil => simpa using replaced
  | cons first rest ih =>
    obtain ⟨firstKey, restKeys⟩ := List.forall_mem_cons.mp keys
    have later := ih (replaced.replace firstKey (former first)) restKeys
    rwa [List.append_assoc] at later

theorem replaced_suspended (own : r.Own) (keys : ∀ n ∈ names, n.changeable? = none) :
    Replaced names r (r.suspended names) :=
  replaced_foldl (.nil own) r.setting? keys

theorem setting?_suspended (own : r.Own) (keys : ∀ n ∈ names, n.changeable? = none)
    (key : name.changeable? = none) :
    (r.suspended names).setting? name
      = if name.memberOf names then some ⟨true⟩ else r.setting? name := by
  have replaced := replaced_suspended own keys
  unfold setting?
  cases listed : name.memberOf names with
  | true =>
    obtain ⟨reference, found, _, disabled⟩ := replaced.listed key listed
    rw [found, if_pos rfl]
    exact congrArg some disabled
  | false =>
    rw [replaced.unlisted key listed, if_neg Bool.false_ne_true]
    cases found : r.reference? name with
    | none => rfl
    | some reference => exact congrArg some (replaced.kept reference (own.held key found))

theorem notices_suspended (r : Registry) (names : List Value) :
    (r.suspended names).notices = r.notices := by
  unfold suspended
  generalize r.setting? = former
  induction names generalizing r with
  | nil => rfl
  | cons first rest ih => exact ih (r.replace first (former first))

/-! ## What is done meanwhile -/

/-- Settings to which a name refers. -/
def Reaches (r : Registry) (reference : Nat) : Prop :=
  ∃ name : Value, name.changeable? = none ∧ r.reference? name = some reference

/-- What operations on a registry make of it: names refer to settings that could be reached before or
    that are new, and settings that could not be reached are what they were. -/
structure Evolves (before after : Registry) : Prop where
  own : after.Own
  longer : before.settings.length ≤ after.settings.length
  reached : ∀ {reference}, after.Reaches reference →
    before.Reaches reference ∨ before.settings.length ≤ reference
  kept : ∀ reference < before.settings.length, ¬before.Reaches reference →
    after.settingsAt reference = before.settingsAt reference

namespace Evolves

theorem refl (own : r.Own) : Evolves r r := ⟨own, Nat.le_refl _, .inl, fun _ _ _ => rfl⟩

theorem trans (first : Evolves r q) (second : Evolves q s) : Evolves r s where
  own := second.own
  longer := Nat.le_trans first.longer second.longer
  reached reaches := by
    rcases second.reached reaches with before | new
    · exact first.reached before
    · exact .inr (Nat.le_trans first.longer new)
  kept reference there unreached := by
    have stillUnreached : ¬q.Reaches reference := fun reaches =>
      (first.reached reaches).elim unreached (Nat.not_le_of_lt there)
    exact (second.kept reference (Nat.lt_of_lt_of_le there first.longer) stillUnreached).trans
      (first.kept reference there unreached)

theorem give (own : r.Own) (settings : Settings) (key : name.changeable? = none) :
    Evolves r (r.give name settings) where
  own := own_give own settings key
  longer := (length_give r name settings).symm ▸ Nat.le_succ _
  reached := by
    rintro reference ⟨other, otherKey, found⟩
    rw [reference?_give r settings key otherKey] at found
    split at found
    · obtain rfl := Option.some.inj found
      exact .inr (Nat.le_refl _)
    · exact .inl ⟨other, otherKey, found⟩
  kept _ there _ := settingsAt_give_of_lt settings there

theorem alter (own : r.Own) {reference : Nat} (reached : r.Reaches reference)
    (settings : Settings) : Evolves r (r.alter reference settings) where
  own := own_alter own reference settings
  longer := (length_alter r reference settings).symm ▸ Nat.le_refl _
  reached := .inl
  kept _ _ unreached :=
    settingsAt_alter_other settings fun same => unreached (same ▸ reached)

theorem known (own : r.Own) (key : name.changeable? = none) : Evolves r (r.known name).1 := by
  cases found : r.reference? name with
  | some reference =>
    rw [known_of_reference? found]
    exact .refl own
  | none =>
    rw [known_of_none found]
    exact .give own _ key

theorem set (own : r.Own) (disabled : Bool) (key : name.changeable? = none) :
    Evolves r (r.set name disabled) :=
  (known own key).trans
    (.alter (own_known own key) ⟨name, key, reference?_known r key⟩ ⟨disabled⟩)

theorem setAll (own : r.Own) (disabled : Bool) (given : List Value) :
    Evolves r (r.setAll disabled given).1 := by
  induction given generalizing r with
  | nil => exact .refl own
  | cons first rest ih =>
    unfold Registry.setAll
    cases known : first.changeable? with
    | some kind => simpa only [Value.asKey, known] using refl own
    | none =>
      have one := set own disabled known
      simpa only [Value.asKey_of_key known] using one.trans (ih one.own)

theorem addNotices (own : r.Own) (given : List Value) : Evolves r (r.addNotices given) where
  own := ⟨own.held, own.apart⟩
  longer := Nat.le_refl _
  reached := .inl
  kept _ _ _ := rfl

theorem suspended (own : r.Own) (keys : ∀ n ∈ names, n.changeable? = none) :
    Evolves r (r.suspended names) where
  own := (replaced_suspended own keys).own
  longer := (replaced_suspended own keys).longer
  reached := by
    rintro reference ⟨other, otherKey, found⟩
    cases listed : other.memberOf names with
    | true =>
      obtain ⟨new, isNew, later, _⟩ := (replaced_suspended own keys).listed otherKey listed
      obtain rfl := Option.some.inj (isNew.symm.trans found)
      exact .inr later
    | false =>
      rw [(replaced_suspended own keys).unlisted otherKey listed] at found
      exact .inl ⟨other, otherKey, found⟩
  kept reference there _ := (replaced_suspended own keys).kept reference there

end Evolves

/-! ## The end -/

/-- The registry with the settings of one name put back. -/
def putBack (r : Registry) (saved : Value × Option Nat) : Registry :=
  match saved.2 with
  | none => r.forget saved.1
  | some reference => r.refer saved.1 reference

theorem restore_eq_foldl (r : Registry) (saved : Saved) : r.restore saved = saved.foldl putBack r :=
  rfl

theorem reference?_putBack (r : Registry) {saved : Value × Option Nat}
    (savedKey : saved.1.changeable? = none) (key : name.changeable? = none) :
    (r.putBack saved).reference? name
      = if Value.same saved.1 name then saved.2 else r.reference? name := by
  obtain ⟨n, reference⟩ := saved
  cases reference with
  | none => exact reference?_forget r savedKey key
  | some reference => exact reference?_refer r reference savedKey key

theorem settings_restore (r : Registry) (saved : Saved) :
    (r.restore saved).settings = r.settings := by
  rw [restore_eq_foldl]
  induction saved generalizing r with
  | nil => rfl
  | cons first rest ih =>
    refine (ih (r.putBack first)).trans ?_
    obtain ⟨n, _ | reference⟩ := first <;> rfl

theorem notices_restore (r : Registry) (saved : Saved) : (r.restore saved).notices = r.notices := by
  rw [restore_eq_foldl]
  induction saved generalizing r with
  | nil => rfl
  | cons first rest ih =>
    refine (ih (r.putBack first)).trans ?_
    obtain ⟨n, _ | reference⟩ := first <;> rfl

theorem reference?_restore_of_apart (r : Registry) {saved : Saved}
    (keys : ∀ p ∈ saved, p.1.changeable? = none) (key : name.changeable? = none)
    (apart : ∀ p ∈ saved, Value.same p.1 name = false) :
    (r.restore saved).reference? name = r.reference? name := by
  rw [restore_eq_foldl]
  induction saved generalizing r with
  | nil => rfl
  | cons first rest ih =>
    obtain ⟨firstKey, restKeys⟩ := List.forall_mem_cons.mp keys
    obtain ⟨firstApart, restApart⟩ := List.forall_mem_cons.mp apart
    rw [List.foldl_cons, ih _ restKeys restApart, reference?_putBack r firstKey key,
      if_neg (Bool.eq_false_iff.mp firstApart)]

/-- Of a name that was saved once, what was saved counts. -/
theorem reference?_restore_of_mem (r : Registry) {saved : Saved} {p : Value × Option Nat}
    (keys : ∀ p ∈ saved, p.1.changeable? = none) (key : name.changeable? = none)
    (once : saved.Pairwise fun p q => Value.same p.1 q.1 = false)
    (member : p ∈ saved) (alike : Value.same p.1 name = true) :
    (r.restore saved).reference? name = p.2 := by
  rw [restore_eq_foldl]
  induction saved generalizing r with
  | nil => cases member
  | cons first rest ih =>
    obtain ⟨firstKey, restKeys⟩ := List.forall_mem_cons.mp keys
    obtain ⟨apart, restOnce⟩ := List.pairwise_cons.mp once
    rw [List.foldl_cons]
    rcases List.mem_cons.mp member with rfl | later
    · -- The later ones are apart from the name, so they leave what is put back here.
      have restApart : ∀ q ∈ rest, Value.same q.1 name = false := by
        intro q there
        rw [← Value.same_congr_right firstKey key alike,
          Value.same_comm firstKey]
        exact apart q there
      rw [← restore_eq_foldl, reference?_restore_of_apart _ restKeys key restApart,
        reference?_putBack r firstKey key, if_pos alike]
    · exact ih (r.putBack first) restKeys restOnce later

/-- Once a suspension has ended, its names refer to what they referred to when it began, and all
    others to what they referred to when it ended. -/
theorem reference?_restore_noted (r entry : Registry) (keys : ∀ n ∈ names, n.changeable? = none)
    (key : name.changeable? = none) :
    (r.restore (entry.noted names)).reference? name
      = if name.memberOf names then entry.reference? name else r.reference? name := by
  have savedKeys : ∀ p ∈ entry.noted names, p.1.changeable? = none := by
    intro p member
    obtain ⟨n, kept, rfl⟩ := List.mem_map.mp member
    exact keys n (Value.mem_of_mem_distinct kept)
  have once : (entry.noted names).Pairwise fun p q => Value.same p.1 q.1 = false :=
    List.pairwise_map.mpr (Value.distinct_pairwise names)
  rw [← Value.memberOf_distinct keys key]
  cases listed : name.memberOf (Value.distinct names) with
  | true =>
    obtain ⟨n, kept, alike⟩ := List.any_eq_true.mp listed
    have nKey := keys n (Value.mem_of_mem_distinct kept)
    have member : (n, entry.reference? n) ∈ entry.noted names := List.mem_map_of_mem kept
    rw [if_pos rfl, reference?_restore_of_mem r savedKeys key once member alike]
    exact reference?_congr entry nKey key alike
  | false =>
    rw [if_neg Bool.false_ne_true]
    refine reference?_restore_of_apart r savedKeys key fun p member => ?_
    obtain ⟨n, kept, rfl⟩ := List.mem_map.mp member
    exact Bool.eq_false_iff.mpr (List.any_eq_false.mp listed n kept)

/-! ## From the beginning to the end -/

section

variable {entry left : Registry} (own : entry.Own)
  (keys : ∀ n ∈ names, n.changeable? = none) (evolves : Evolves (entry.suspended names) left)
include own keys

/-- Settings that were kept cannot be reached through the copies in their place. -/
theorem not_reaches_suspended {reference : Nat} (key : name.changeable? = none)
    (listed : name.memberOf names = true) (found : entry.reference? name = some reference) :
    ¬(entry.suspended names).Reaches reference := by
  have replaced := replaced_suspended own keys
  rintro ⟨other, otherKey, foundToo⟩
  cases listedToo : other.memberOf names with
  | true =>
    obtain ⟨new, isNew, later, _⟩ := replaced.listed otherKey listedToo
    obtain rfl := Option.some.inj (isNew.symm.trans foundToo)
    exact Nat.not_lt_of_le later (own.held key found)
  | false =>
    rw [replaced.unlisted otherKey listedToo] at foundToo
    have alike := own.apart key otherKey found foundToo
    have same : name.memberOf names = other.memberOf names := by
      unfold Value.memberOf
      congr 1
      funext n
      exact Value.same_congr_right key otherKey alike
    exact Bool.false_ne_true (listedToo.symm.trans (same.symm.trans listed))

include evolves

theorem not_reaches_left {reference : Nat} (key : name.changeable? = none)
    (listed : name.memberOf names = true) (found : entry.reference? name = some reference) :
    ¬left.Reaches reference := by
  intro reaches
  rcases evolves.reached reaches with meanwhile | new
  · exact not_reaches_suspended own keys key listed found meanwhile
  · have longer := (replaced_suspended own keys).longer
    exact Nat.not_lt_of_le (Nat.le_trans longer new) (own.held key found)

/-- Settings that were kept are afterwards what they were. -/
theorem settingsAt_left {reference : Nat} (key : name.changeable? = none)
    (listed : name.memberOf names = true) (found : entry.reference? name = some reference) :
    left.settingsAt reference = entry.settingsAt reference := by
  have replaced := replaced_suspended own keys
  have there := own.held key found
  rw [evolves.kept reference (Nat.lt_of_lt_of_le there replaced.longer)
    (not_reaches_suspended own keys key listed found), replaced.kept reference there]

/-- Once a suspension has ended, its names are noted as they were when it began, and all others as
    they were when it ended. -/
theorem setting?_restore_noted (key : name.changeable? = none) :
    (left.restore (entry.noted names)).setting? name
      = if name.memberOf names then entry.setting? name else left.setting? name := by
  have settings : (left.restore (entry.noted names)).settingsAt = left.settingsAt := by
    unfold settingsAt
    rw [settings_restore]
  rw [setting?, settings, reference?_restore_noted left entry keys key]
  cases listed : name.memberOf names with
  | true =>
    rw [if_pos rfl, if_pos rfl, setting?]
    cases found : entry.reference? name with
    | none => rfl
    | some reference => exact congrArg some (settingsAt_left own keys evolves key listed found)
  | false => rfl

theorem own_restore : (left.restore (entry.noted names)).Own where
  held {name reference} key found := by
    rw [settings_restore]
    rw [reference?_restore_noted left entry keys key] at found
    split at found
    · exact Nat.lt_of_lt_of_le (own.held key found)
        (Nat.le_trans (replaced_suspended own keys).longer evolves.longer)
    · exact evolves.own.held key found
  apart {name other reference} key otherKey found foundToo := by
    rw [reference?_restore_noted left entry keys key] at found
    rw [reference?_restore_noted left entry keys otherKey] at foundToo
    -- What was put back is not what a name refers to that is not listed.
    split at found
    next listed =>
      split at foundToo
      next => exact own.apart key otherKey found foundToo
      next =>
        exact absurd ⟨other, otherKey, foundToo⟩
          (not_reaches_left own keys evolves key listed found)
    next =>
      split at foundToo
      next listedToo =>
        exact absurd ⟨name, key, found⟩
          (not_reaches_left own keys evolves otherKey listedToo foundToo)
      next => exact evolves.own.apart key otherKey found foundToo

/-- A suspension with what was done meanwhile is itself something that may be done to a registry. -/
theorem Evolves.restore : Evolves entry (left.restore (entry.noted names)) where
  own := own_restore own keys evolves
  longer := by
    rw [settings_restore]
    exact ((Evolves.suspended own keys).trans evolves).longer
  reached := by
    rintro reference ⟨other, otherKey, found⟩
    rw [reference?_restore_noted left entry keys otherKey] at found
    split at found
    · exact .inl ⟨other, otherKey, found⟩
    · exact ((Evolves.suspended own keys).trans evolves).reached ⟨other, otherKey, found⟩
  kept reference there unreached := by
    have kept := ((Evolves.suspended own keys).trans evolves).kept reference there unreached
    unfold settingsAt at kept ⊢
    rwa [settings_restore]

end

/-! ## Two registries under the same operations -/

/-- Two registries without shared settings that differ at most in what they note of some names. -/
structure AgreeBut (names : List Value) (r s : Registry) : Prop where
  own : r.Own
  ownToo : s.Own
  settings : ∀ name : Value, name.changeable? = none → name.memberOf names = false →
    r.setting? name = s.setting? name
  notices : r.notices = s.notices

namespace AgreeBut

theorem set (agree : AgreeBut names r s) (disabled : Bool) (key : name.changeable? = none) :
    AgreeBut names (r.set name disabled) (s.set name disabled) where
  own := own_set agree.own disabled key
  ownToo := own_set agree.ownToo disabled key
  settings other otherKey apart := by
    rw [setting?_set agree.own disabled key otherKey,
      setting?_set agree.ownToo disabled key otherKey, agree.settings other otherKey apart]
  notices := by rw [notices_set, notices_set, agree.notices]

/-- Rules are disabled or enabled alike, up to the same name that is no key. -/
theorem setAll (agree : AgreeBut names r s) (disabled : Bool) (given : List Value) :
    AgreeBut names (r.setAll disabled given).1 (s.setAll disabled given).1 ∧
      (r.setAll disabled given).2 = (s.setAll disabled given).2 := by
  induction given generalizing r s with
  | nil => exact ⟨agree, rfl⟩
  | cons first rest ih =>
    unfold Registry.setAll
    cases known : first.changeable? with
    | some kind => simpa only [Value.asKey, known] using ⟨agree, trivial⟩
    | none => simpa only [Value.asKey_of_key known] using ih (agree.set disabled known)

theorem addNotices (agree : AgreeBut names r s) (given : List Value) :
    AgreeBut names (r.addNotices given) (s.addNotices given) where
  own := (Evolves.addNotices agree.own given).own
  ownToo := (Evolves.addNotices agree.ownToo given).own
  settings := agree.settings
  notices := congrArg (· ++ given) agree.notices

theorem suspended (agree : AgreeBut names r s) {given : List Value}
    (keys : ∀ n ∈ given, n.changeable? = none) :
    AgreeBut names (r.suspended given) (s.suspended given) where
  own := (replaced_suspended agree.own keys).own
  ownToo := (replaced_suspended agree.ownToo keys).own
  settings name key apart := by
    rw [setting?_suspended agree.own keys key, setting?_suspended agree.ownToo keys key,
      agree.settings name key apart]
  notices := by rw [notices_suspended, notices_suspended, agree.notices]

/-- Suspensions that began in agreement end in agreement. -/
theorem restore (agree : AgreeBut names r s) {entry other : Registry}
    (began : AgreeBut names entry other) {given : List Value}
    (keys : ∀ n ∈ given, n.changeable? = none) (evolves : Evolves (entry.suspended given) r)
    (evolvesToo : Evolves (other.suspended given) s) :
    AgreeBut names (r.restore (entry.noted given)) (s.restore (other.noted given)) where
  own := own_restore began.own keys evolves
  ownToo := own_restore began.ownToo keys evolvesToo
  settings name key apart := by
    rw [setting?_restore_noted began.own keys evolves key,
      setting?_restore_noted began.ownToo keys evolvesToo key,
      agree.settings name key apart, began.settings name key apart]
  notices := by rw [notices_restore, notices_restore, agree.notices]

theorem of_suspended (own : r.Own) (keys : ∀ n ∈ names, n.changeable? = none) :
    AgreeBut names (r.suspended names) r where
  own := (replaced_suspended own keys).own
  ownToo := own
  settings name key apart := by
    rw [setting?_suspended own keys key, if_neg (Bool.eq_false_iff.mp apart)]
  notices := notices_suspended r names

end AgreeBut

end Registry

end RecordRules
