import Mathlib.Data.List.Nodup
import RecordRules.Proofs.Value.Keys
import RecordRules.Proofs.Value.Lookup
import RecordRules.Registry.Basic

/-!
# What a registry notes of a name

A name that is given other settings refers to them, and so does every name that is the same
(`reference?_refer`). Where no two names share settings, what is set for a name is noted of every
name that is the same, and of no other (`setting?_set`), and still no two names share settings
(`own_set`); a name that shares them is changed with the other.
-/

namespace RecordRules

namespace Registry

variable {r : Registry} {name other : Value}

/-! ## References -/

/-- Names that are the same refer to the same settings. -/
theorem reference?_congr (r : Registry) (key : name.changeable? = none)
    (otherKey : other.changeable? = none) (alike : Value.same name other = true) :
    r.reference? name = r.reference? other := by
  unfold reference?
  congr 2
  funext entry
  exact Value.same_congr_right key otherKey alike

theorem reference?_refer (r : Registry) (reference : Nat) (key : name.changeable? = none)
    (otherKey : other.changeable? = none) :
    (r.refer name reference).reference? other
      = if Value.same name other then some reference else r.reference? other := by
  unfold refer reference?
  dsimp only
  induction r.rules with
  | nil => cases alike : Value.same name other <;> simp [putReference, alike]
  | cons entry rest ih =>
    unfold putReference
    by_cases known : Value.same entry.1 name = true
    · -- The place of the name is the first that is looked at, for either name.
      have place := Value.same_congr key otherKey known
      rw [if_pos known]
      cases alike : Value.same name other <;> simp [place, alike]
    · rw [if_neg known]
      by_cases found : Value.same entry.1 other = true
      · have apart := Value.same_eq_false key otherKey known found
        simp [found, apart]
      · simpa [found] using ih

theorem reference?_forget (r : Registry) (key : name.changeable? = none)
    (otherKey : other.changeable? = none) :
    (r.forget name).reference? other
      = if Value.same name other then none else r.reference? other := by
  unfold forget reference?
  dsimp only
  induction r.rules with
  | nil => simp
  | cons entry rest ih =>
    by_cases known : Value.same entry.1 name = true
    · have place := Value.same_congr key otherKey known
      rw [List.filter_cons_of_neg (by simpa using known), ih]
      cases alike : Value.same name other <;> simp [place, alike]
    · rw [List.filter_cons_of_pos (by simpa using known)]
      by_cases found : Value.same entry.1 other = true
      · have apart := Value.same_eq_false key otherKey known found
        simp [found, apart]
      · simpa [found] using ih

theorem reference?_give (r : Registry) (settings : Settings) (key : name.changeable? = none)
    (otherKey : other.changeable? = none) :
    (r.give name settings).reference? other
      = if Value.same name other then some r.settings.length else r.reference? other :=
  reference?_refer _ _ key otherKey

/-! ## Settings -/

theorem settingsAt_give_of_lt {reference : Nat} (settings : Settings)
    (there : reference < r.settings.length) :
    (r.give name settings).settingsAt reference = r.settingsAt reference := by
  simp [give, refer, settingsAt, List.getD_eq_getElem?_getD, List.getElem?_append_left there]

theorem settingsAt_give_new (r : Registry) (name : Value) (settings : Settings) :
    (r.give name settings).settingsAt r.settings.length = settings := by
  simp [give, refer, settingsAt]

theorem length_give (r : Registry) (name : Value) (settings : Settings) :
    (r.give name settings).settings.length = r.settings.length + 1 :=
  List.length_append

theorem settingsAt_alter_self {reference : Nat} (settings : Settings)
    (there : reference < r.settings.length) :
    (r.alter reference settings).settingsAt reference = settings := by
  simp [alter, settingsAt, there]

theorem settingsAt_alter_other {reference elsewhere : Nat} (settings : Settings)
    (differ : elsewhere ≠ reference) :
    (r.alter reference settings).settingsAt elsewhere = r.settingsAt elsewhere := by
  simp [alter, settingsAt, List.getD_eq_getElem?_getD, List.getElem?_set_ne differ.symm]

theorem length_alter (r : Registry) (reference : Nat) (settings : Settings) :
    (r.alter reference settings).settings.length = r.settings.length :=
  List.length_set

/-! ## Settings that are not shared -/

/-- A registry whose names refer to settings that there are, and none of them to those of another. -/
structure Own (r : Registry) : Prop where
  held : ∀ {name reference}, name.changeable? = none → r.reference? name = some reference →
    reference < r.settings.length
  apart : ∀ {name other reference}, name.changeable? = none → other.changeable? = none →
    r.reference? name = some reference → r.reference? other = some reference →
      Value.same name other = true

theorem mem_of_reference? {reference : Nat} (found : r.reference? name = some reference) :
    ∃ n, (n, reference) ∈ r.rules ∧ Value.same n name = true := by
  obtain ⟨⟨n, i⟩, isFirst, rfl⟩ := Option.map_eq_some_iff.mp found
  have alike := List.find?_some isFirst
  exact ⟨n, List.mem_of_find?_eq_some isFirst, alike⟩

/-- It is enough that no reference stands twice. -/
theorem own_of_nodup (held : ∀ entry ∈ r.rules, entry.2 < r.settings.length)
    (apart : (r.rules.map (·.2)).Nodup) : r.Own where
  held _ found := by
    obtain ⟨n, member, _⟩ := mem_of_reference? found
    exact held _ member
  apart {name other reference} key otherKey found foundToo := by
    obtain ⟨n, member, alike⟩ := mem_of_reference? found
    obtain ⟨m, memberToo, alikeToo⟩ := mem_of_reference? foundToo
    have one : (n, reference) = (m, reference) :=
      List.inj_on_of_nodup_map apart member memberToo rfl
    obtain ⟨rfl, _⟩ := Prod.mk.inj one
    exact (Value.same_congr key otherKey alike).symm.trans alikeToo

theorem own_empty : empty.Own where
  held _ found := by cases found
  apart _ _ found := by cases found

theorem Own.differ (own : r.Own) {reference elsewhere : Nat} (key : name.changeable? = none)
    (otherKey : other.changeable? = none) (apart : Value.same name other = false)
    (found : r.reference? name = some reference) (foundToo : r.reference? other = some elsewhere) :
    elsewhere ≠ reference := by
  rintro rfl
  exact Bool.false_ne_true (apart.symm.trans (own.apart key otherKey found foundToo))

theorem own_give (own : r.Own) (settings : Settings) (key : name.changeable? = none) :
    (r.give name settings).Own where
  held {other reference} otherKey found := by
    rw [reference?_give r settings key otherKey] at found
    rw [length_give]
    split at found
    · obtain rfl := Option.some.inj found
      exact Nat.lt_succ_self _
    · exact Nat.lt_succ_of_lt (own.held otherKey found)
  apart {other third reference} otherKey thirdKey found foundToo := by
    rw [reference?_give r settings key otherKey] at found
    rw [reference?_give r settings key thirdKey] at foundToo
    split at found
    next alike =>
      obtain rfl := Option.some.inj found
      split at foundToo
      next alikeToo => rwa [← Value.same_congr otherKey thirdKey alike]
      next => exact absurd (own.held thirdKey foundToo) (Nat.lt_irrefl _)
    next =>
      split at foundToo
      next =>
        obtain rfl := Option.some.inj foundToo
        exact absurd (own.held otherKey found) (Nat.lt_irrefl _)
      next => exact own.apart otherKey thirdKey found foundToo

theorem setting?_give (own : r.Own) (settings : Settings) (key : name.changeable? = none)
    (otherKey : other.changeable? = none) :
    (r.give name settings).setting? other
      = if Value.same name other then some settings else r.setting? other := by
  rw [setting?, reference?_give r settings key otherKey]
  cases alike : Value.same name other with
  | true => simp [settingsAt_give_new]
  | false =>
    rw [if_neg Bool.false_ne_true, if_neg Bool.false_ne_true, setting?]
    cases found : r.reference? other with
    | none => rfl
    | some reference =>
      exact congrArg some (settingsAt_give_of_lt settings (own.held otherKey found))

theorem own_alter (own : r.Own) (reference : Nat) (settings : Settings) :
    (r.alter reference settings).Own where
  held key found := by
    rw [length_alter]
    exact own.held key found
  apart := own.apart

theorem setting?_alter (own : r.Own) {reference : Nat} (settings : Settings)
    (key : name.changeable? = none) (otherKey : other.changeable? = none)
    (found : r.reference? name = some reference) :
    (r.alter reference settings).setting? other
      = if Value.same name other then some settings else r.setting? other := by
  have refers : (r.alter reference settings).reference? other = r.reference? other := rfl
  rw [setting?, refers]
  cases alike : Value.same name other with
  | true =>
    rw [← reference?_congr r key otherKey alike, found, if_pos rfl]
    exact congrArg some (settingsAt_alter_self settings (own.held key found))
  | false =>
    rw [if_neg Bool.false_ne_true, setting?]
    cases foundToo : r.reference? other with
    | none => rfl
    | some elsewhere =>
      exact congrArg some
        (settingsAt_alter_other settings (own.differ key otherKey alike found foundToo))

/-! ## Disabling or enabling one rule -/

theorem known_of_reference? {reference : Nat} (found : r.reference? name = some reference) :
    r.known name = (r, reference) := by
  rw [known, found]

theorem known_of_none (unknown : r.reference? name = none) :
    r.known name = (r.give name {}, r.settings.length) := by
  rw [known, unknown]

/-- What is set for a name that is known is set in its place, and else under a name that is made. -/
theorem set_eq (r : Registry) (name : Value) (disabled : Bool) :
    r.set name disabled = (r.known name).1.alter (r.known name).2 ⟨disabled⟩ := rfl

theorem reference?_known (r : Registry) (key : name.changeable? = none) :
    (r.known name).1.reference? name = some (r.known name).2 := by
  cases found : r.reference? name with
  | some reference => rw [known_of_reference? found, found]
  | none =>
    rw [known_of_none found, reference?_give r _ key key, if_pos (Value.same_self key)]

theorem own_known (own : r.Own) (key : name.changeable? = none) : (r.known name).1.Own := by
  cases found : r.reference? name with
  | some reference => rwa [known_of_reference? found]
  | none =>
    rw [known_of_none found]
    exact own_give own _ key

theorem own_set (own : r.Own) (disabled : Bool) (key : name.changeable? = none) :
    (r.set name disabled).Own :=
  own_alter (own_known own key) _ _

theorem setting?_set (own : r.Own) (disabled : Bool) (key : name.changeable? = none)
    (otherKey : other.changeable? = none) :
    (r.set name disabled).setting? other
      = if Value.same name other then some ⟨disabled⟩ else r.setting? other := by
  rw [set_eq, setting?_alter (own_known own key) _ key otherKey (reference?_known r key)]
  cases alike : Value.same name other with
  | true => rfl
  | false =>
    rw [if_neg Bool.false_ne_true, if_neg Bool.false_ne_true]
    cases found : r.reference? name with
    | some reference => rw [known_of_reference? found]
    | none =>
      rw [known_of_none found, setting?_give own _ key otherKey,
        if_neg (Bool.eq_false_iff.mp alike)]

theorem notices_set (r : Registry) (name : Value) (disabled : Bool) :
    (r.set name disabled).notices = r.notices := by
  rw [set_eq]
  cases found : r.reference? name with
  | some reference => rw [known_of_reference? found]; rfl
  | none => rw [known_of_none found]; rfl

theorem isDisabled_of_key (r : Registry) (key : name.changeable? = none)
    (filled : name.truthy = true) :
    r.isDisabled name = .ok ((r.setting? name).any (·.disabled)) := by
  rw [isDisabled, if_pos filled, Value.asKey_of_key key]
  rfl

theorem disable_text (r : Registry) (name : String) :
    r.disable [.text name] = (r.set (.text name) true, .ok ()) := by
  simp [disable, setAll, Value.asKey_text]

/-- A rule that has been disabled is disabled. -/
theorem isDisabled_disable_self (own : r.Own) {name : String} (filled : name ≠ "") :
    (r.disable [.text name]).1.isDisabled (.text name) = .ok true := by
  rw [disable_text, isDisabled_of_key _ rfl (Value.truthy_text filled),
    setting?_set own true rfl rfl, if_pos (Value.same_text_self name)]
  rfl

/-- Disabling a rule leaves the others as they were, unless they share its settings. -/
theorem isDisabled_disable_other (own : r.Own) (name : String) {other : Value}
    (differ : other ≠ .text name) :
    (r.disable [.text name]).1.isDisabled other = r.isDisabled other := by
  have apart : Value.same (.text name) other = false := by
    rw [Bool.eq_false_iff, ne_eq, Value.same_text_iff]
    exact differ.symm
  rw [disable_text]
  unfold isDisabled
  split
  · cases known : other.changeable? with
    | some kind => simp only [Value.asKey, known]; rfl
    | none =>
      simp only [Value.asKey_of_key known]
      show Except.ok (((r.set (.text name) true).setting? other).any (·.disabled)) = .ok _
      rw [setting?_set own true rfl known, if_neg (Bool.eq_false_iff.mp apart)]
  · rfl

theorem isNotice_disable (r : Registry) (name : String) (other : Value) :
    (r.disable [.text name]).1.isNotice other = r.isNotice other := by
  rw [disable_text, isNotice, notices_set, isNotice]

/-! ## Disabling or enabling several rules -/

/-- What is set for keys is set for each of them in turn. -/
theorem setAll_of_keys (r : Registry) (disabled : Bool) {names : List Value}
    (keys : ∀ n ∈ names, n.changeable? = none) :
    r.setAll disabled names = (names.foldl (fun r n => r.set n disabled) r, .ok ()) := by
  induction names generalizing r with
  | nil => rfl
  | cons first rest ih =>
    obtain ⟨firstKey, restKeys⟩ := List.forall_mem_cons.mp keys
    rw [setAll, Value.asKey_of_key firstKey]
    exact ih _ restKeys

theorem own_foldl_set (own : r.Own) (disabled : Bool) {names : List Value}
    (keys : ∀ n ∈ names, n.changeable? = none) :
    (names.foldl (fun r n => r.set n disabled) r).Own := by
  induction names generalizing r with
  | nil => exact own
  | cons first rest ih =>
    obtain ⟨firstKey, restKeys⟩ := List.forall_mem_cons.mp keys
    exact ih (own_set own disabled firstKey) restKeys

theorem setting?_foldl_set (own : r.Own) (disabled : Bool) {names : List Value}
    (keys : ∀ n ∈ names, n.changeable? = none) (key : name.changeable? = none) :
    (names.foldl (fun r n => r.set n disabled) r).setting? name
      = if name.memberOf names then some ⟨disabled⟩ else r.setting? name := by
  induction names generalizing r with
  | nil => simp [Value.memberOf]
  | cons first rest ih =>
    obtain ⟨firstKey, restKeys⟩ := List.forall_mem_cons.mp keys
    rw [List.foldl_cons, ih (own_set own disabled firstKey) restKeys,
      setting?_set own disabled firstKey key]
    cases alike : Value.same first name <;> simp [Value.memberOf, alike]

theorem notices_foldl_set (r : Registry) (disabled : Bool) (names : List Value) :
    (names.foldl (fun r n => r.set n disabled) r).notices = r.notices := by
  induction names generalizing r with
  | nil => rfl
  | cons first rest ih => exact (ih (r.set first disabled)).trans (notices_set r first disabled)

/-! ## Adding a notice rule -/

/-- A rule is a notice rule if it has a name, which is among those of the notice rules. -/
theorem isNotice_text_iff (r : Registry) (name : String) :
    r.isNotice (.text name) = true ↔ name ≠ "" ∧ .text name ∈ r.notices := by
  simp [isNotice, Value.memberOf_text_iff, Value.truthy]

theorem isNotice_addNotices_self (r : Registry) {name : String} (filled : name ≠ "") :
    (r.addNotices [.text name]).isNotice (.text name) = true :=
  (isNotice_text_iff _ name).mpr ⟨filled, by simp [addNotices]⟩

/-- A notice rule that is added leaves the others as they were. -/
theorem isNotice_addNotices_other (r : Registry) (name : String) {other : Value}
    (differ : other ≠ .text name) :
    (r.addNotices [.text name]).isNotice other = r.isNotice other := by
  have apart : Value.same (.text name) other = false := by
    rw [Bool.eq_false_iff, ne_eq, Value.same_text_iff]
    exact differ.symm
  simp [isNotice, addNotices, Value.memberOf, apart]

end Registry

end RecordRules
