import Mathlib.Data.List.Nodup
import Mathlib.Data.List.Perm.Subperm
import RecordRules.Proofs.Value.Sameness

/-!
# Well-formed values

A set has no two members that are the same, a mapping no two such keys, and what they have can be a
key (`Value.WellFormed`). Sets and mappings are made so (`Value.wellFormed_set_distinct`,
`Value.wellFormed_dict_put`). If all members of a set are among those of another that has as many,
all of the other are among its own (`Value.AreKeys.within_back`), so well-formed values are the same
either way round (`Value.same_symm`).
-/

namespace RecordRules

namespace Value

/-- That values can be keys, and that no two of them are the same. -/
structure AreKeys (values : List Value) : Prop where
  keys : ∀ v ∈ values, v.changeable? = none
  apart : values.Pairwise fun a b => same a b = false

/-- Whether a value holds no other values. -/
def isAtom : Value → Bool
  | list _ | tuple _ | set _ | keys _ | dict _ | field _ | method _ => false
  | _ => true

/-- That the sets and mappings of a value are such, however deep they lie. -/
inductive WellFormed : Value → Prop where
  | atom {v : Value} (atom : v.isAtom = true) : WellFormed v
  | list {items : List Value} (each : ∀ v ∈ items, WellFormed v) : WellFormed (list items)
  | tuple {items : List Value} (each : ∀ v ∈ items, WellFormed v) : WellFormed (tuple items)
  | set {members : List Value} (each : AreKeys members) : WellFormed (set members)
  | keys {names : List Value} (each : AreKeys names) : WellFormed (keys names)
  | dict {entries : Entries} (each : AreKeys (entries.map (·.1)))
      (values : ∀ entry ∈ entries, WellFormed entry.2) : WellFormed (dict entries)
  | field {name : Value} (formed : WellFormed name) : WellFormed (field name)
  | method {name : Value} (formed : WellFormed name) : WellFormed (method name)

theorem key_of_isAtom {v : Value} (atom : v.isAtom = true) : v.changeable? = none := by
  cases v with
  | list | tuple | set | keys | dict | field | method => cases atom
  | _ => rfl

/-! ## How they are made -/

theorem areKeys_keepNew {kept : List Value} {v : Value} (areKeys : AreKeys kept)
    (key : v.changeable? = none) : AreKeys (keepNew kept v) where
  keys w member := by
    rcases mem_of_mem_keepNew member with before | rfl
    · exact areKeys.keys w before
    · exact key
  apart := pairwise_keepNew v areKeys.apart

/-- A set is made without members that are the same as earlier ones. -/
theorem wellFormed_set_distinct {values : List Value}
    (keys : ∀ v ∈ values, v.changeable? = none) : (set (distinct values)).WellFormed :=
  .set ⟨fun v member => keys v (mem_of_mem_distinct member), distinct_pairwise values⟩

/-- To set an entry keeps the keys of a mapping, with a new one at the end. -/
theorem keys_put (entries : Entries) (key value : Value) :
    (entries.put key value).map (·.1) = keepNew (entries.map (·.1)) key := by
  induction entries with
  | nil => rfl
  | cons first rest ih =>
    obtain ⟨k, v⟩ := first
    by_cases alike : same k key = true
    · simp [Entries.put, keepNew_cons_same, alike]
    · simp [Entries.put, keepNew_cons_other, alike, ih]

theorem mem_put {entries : Entries} {key value : Value} {entry : Value × Value}
    (member : entry ∈ entries.put key value) : entry ∈ entries ∨ entry.2 = value := by
  induction entries with
  | nil =>
    obtain rfl := List.mem_singleton.mp member
    exact .inr rfl
  | cons first rest ih =>
    obtain ⟨k, v⟩ := first
    rw [Entries.put] at member
    split at member
    · rcases List.mem_cons.mp member with rfl | later
      · exact .inr rfl
      · exact .inl (List.mem_cons_of_mem _ later)
    · rcases List.mem_cons.mp member with rfl | later
      · exact .inl List.mem_cons_self
      · exact (ih later).imp_left (List.mem_cons_of_mem _)

/-- A mapping is made entry by entry. -/
theorem wellFormed_dict_put {entries : Entries} {key value : Value}
    (formed : (dict entries).WellFormed) (isKey : key.changeable? = none)
    (valueFormed : value.WellFormed) : (dict (entries.put key value)).WellFormed := by
  cases formed with
  | atom atom => cases atom
  | dict areKeys values =>
    refine .dict ?_ fun entry member => ?_
    · rw [keys_put]
      exact areKeys_keepNew areKeys isKey
    · rcases mem_put member with before | rfl
      · exact values entry before
      · exact valueFormed

/-- A mapping of different words is well-formed if the values are. -/
theorem wellFormed_of_words (entries : List (String × Value))
    (apart : (entries.map Prod.fst).Nodup) (values : ∀ entry ∈ entries, entry.2.WellFormed) :
    (dict (entries.map fun entry => (.text entry.1, entry.2))).WellFormed := by
  refine .dict ⟨fun key member => ?_, ?_⟩ fun entry member => ?_
  · simp only [List.map_map, List.mem_map] at member
    obtain ⟨_, _, rfl⟩ := member
    rfl
  · rw [List.map_map, List.pairwise_map]
    refine (List.pairwise_map.mp apart).imp fun {a b} differ => ?_
    simpa [same, sameAtom] using differ
  · obtain ⟨entry, isEntry, rfl⟩ := List.mem_map.mp member
    exact values entry isEntry

/-! ## Keys among keys -/

namespace AreKeys

variable {xs ys : List Value}

theorem nodup (keys : AreKeys xs) : (xs.map keyForm).Nodup := by
  rw [List.Nodup, List.pairwise_map]
  refine List.Pairwise.imp_of_mem ?_ keys.apart
  intro a b member _ differ alike
  have isSame := (same_iff_keyForm a b (.inl (keys.keys a member))).mpr alike
  exact Bool.false_ne_true (differ.symm.trans isSame)

theorem within_iff (keys : AreKeys xs) :
    allWithin xs ys = true ↔ xs.map keyForm ⊆ ys.map keyForm := by
  have same_iff (x : Value) (member : x ∈ xs) (y : Value) :
      same x y = true ↔ x.keyForm = y.keyForm :=
    same_iff_keyForm x y (.inl (keys.keys x member))
  rw [allWithin_iff]
  constructor
  · rintro within _ form
    obtain ⟨x, member, rfl⟩ := List.mem_map.mp form
    obtain ⟨y, memberToo, alike⟩ := within x member
    exact List.mem_map.mpr ⟨y, memberToo, ((same_iff x member y).mp alike).symm⟩
  · intro within x member
    obtain ⟨y, memberToo, alike⟩ := List.mem_map.mp (within (List.mem_map_of_mem member))
    exact ⟨y, memberToo, (same_iff x member y).mpr alike.symm⟩

/-- Keys that are among others are no more than these. -/
theorem length_le (keys : AreKeys xs) (within : allWithin xs ys = true) :
    xs.length ≤ ys.length := by
  have fits := (List.subperm_of_subset keys.nodup (keys.within_iff.mp within)).length_le
  simpa using fits

/-- Keys that are among no more others have these among them. -/
theorem within_back (keys : AreKeys xs) (keysToo : AreKeys ys) (within : allWithin xs ys = true)
    (noMore : ys.length ≤ xs.length) : allWithin ys xs = true := by
  have fits := List.subperm_of_subset keys.nodup (keys.within_iff.mp within)
  have reordered := fits.perm_of_length_le (by simpa using noMore)
  exact keysToo.within_iff.mpr reordered.symm.subset

/-- Among keys there is one that is the same as a value at most. -/
theorem unique {entries : Entries} (keys : AreKeys (entries.map (·.1))) {a b : Value × Value}
    (inFirst : a ∈ entries) (inSecond : b ∈ entries) (alike : a.1.keyForm = b.1.keyForm) :
    a = b := by
  have nodup := keys.nodup
  rw [List.map_map] at nodup
  exact List.inj_on_of_nodup_map nodup inFirst inSecond alike

end AreKeys

/-! ## Sameness either way round -/

variable {a b : Value}

theorem sameLists_symm {xs ys : List Value}
    (each : ∀ x ∈ xs, ∀ y ∈ ys, same x y = true → same y x = true)
    (alike : sameLists xs ys = true) : sameLists ys xs = true := by
  induction xs generalizing ys with
  | nil => cases ys <;> simp_all [sameLists]
  | cons x xs ih =>
    cases ys with
    | nil => simp [sameLists] at alike
    | cons y ys =>
      simp only [sameLists, Bool.and_eq_true] at alike ⊢
      refine ⟨each x List.mem_cons_self y List.mem_cons_self alike.1, ih ?_ alike.2⟩
      intro x' inXs y' inYs
      exact each x' (List.mem_cons_of_mem x inXs) y' (List.mem_cons_of_mem y inYs)

theorem entriesWithin_symm {xs ys : Entries} (keys : AreKeys (xs.map (·.1)))
    (keysToo : AreKeys (ys.map (·.1))) (asMany : xs.length = ys.length)
    (each : ∀ x ∈ xs, ∀ y ∈ ys, same x.2 y.2 = true → same y.2 x.2 = true)
    (within : entriesWithin xs ys = true) : entriesWithin ys xs = true := by
  rw [entriesWithin_iff] at within ⊢
  have keysWithin : allWithin (xs.map (·.1)) (ys.map (·.1)) = true := by
    rw [allWithin_iff]
    intro k member
    obtain ⟨x, inXs, rfl⟩ := List.mem_map.mp member
    obtain ⟨y, inYs, sameKey, _⟩ := within x inXs
    exact ⟨y.1, List.mem_map_of_mem inYs, sameKey⟩
  have keysBack := keys.within_back keysToo keysWithin (by simp [asMany])
  intro y inYs
  obtain ⟨k, isKey, sameKey⟩ := allWithin_iff.mp keysBack y.1 (List.mem_map_of_mem inYs)
  obtain ⟨x, inXs, rfl⟩ := List.mem_map.mp isKey
  -- The entry in which the value of this one is found again can be no other than this one.
  obtain ⟨y', inYsToo, sameKeyToo, sameValue⟩ := within x inXs
  have xKey := keys.keys x.1 (List.mem_map_of_mem inXs)
  have forms := (same_iff_keyForm y.1 x.1 (.inr xKey)).mp sameKey
  have formsToo := (same_iff_keyForm x.1 y'.1 (.inl xKey)).mp sameKeyToo
  obtain rfl := keysToo.unique inYs inYsToo (forms.trans formsToo)
  exact ⟨x, inXs, sameKey, each x inXs y inYs sameValue⟩

namespace WellFormed

theorem items_of_list {items : List Value} (formed : (Value.list items).WellFormed) :
    ∀ v ∈ items, v.WellFormed := by
  cases formed with
  | atom atom => cases atom
  | list each => exact each

theorem items_of_tuple {items : List Value} (formed : (Value.tuple items).WellFormed) :
    ∀ v ∈ items, v.WellFormed := by
  cases formed with
  | atom atom => cases atom
  | tuple each => exact each

theorem entries_of_dict {entries : Entries} (formed : (Value.dict entries).WellFormed) :
    AreKeys (entries.map (·.1)) ∧ ∀ entry ∈ entries, entry.2.WellFormed := by
  cases formed with
  | atom atom => cases atom
  | dict each values => exact ⟨each, values⟩

theorem of_get? {entries : Entries} (formed : (Value.dict entries).WellFormed) {key found : Value}
    (isFound : entries.get? key = some found) : found.WellFormed := by
  obtain ⟨entry, first, rfl⟩ := Option.map_eq_some_iff.mp isFound
  exact formed.entries_of_dict.2 entry (List.mem_of_find?_eq_some first)

theorem areKeys {v : Value} {members : List Value} (formed : v.WellFormed)
    (has : v.members? = some members) : AreKeys members := by
  cases formed with
  | set keys | keys keys =>
    cases has
    exact keys
  | atom atom => cases v <;> simp [isAtom] at atom <;> cases has
  | _ => cases has

end WellFormed

/-- Well-formed values are the same either way round. -/
theorem same_symm (formed : a.WellFormed) (formedToo : b.WellFormed) (alike : same a b = true) :
    same b a = true := by
  induction formed generalizing b with
  | atom atom => exact same_comm (key_of_isAtom atom) ▸ alike
  | list each ih =>
    obtain ⟨ys, rfl, items⟩ := same_list_iff.mp alike
    have others := formedToo.items_of_list
    exact same_list_iff.mpr
      ⟨_, rfl, sameLists_symm (fun x inXs y inYs => ih x inXs (others y inYs)) items⟩
  | tuple each ih =>
    obtain ⟨ys, rfl, items⟩ := same_tuple_iff.mp alike
    have others := formedToo.items_of_tuple
    exact same_tuple_iff.mpr
      ⟨_, rfl, sameLists_symm (fun x inXs y inYs => ih x inXs (others y inYs)) items⟩
  | set keys | keys keys =>
    obtain ⟨ys, members, asMany, within⟩ := (same_members_iff rfl).mp alike
    have back := keys.within_back (formedToo.areKeys members) within (Nat.le_of_eq asMany.symm)
    exact (same_members_iff members).mpr ⟨_, rfl, asMany.symm, back⟩
  | dict keys values ih =>
    obtain ⟨ys, rfl, asMany, within⟩ := same_dict_iff.mp alike
    obtain ⟨keysToo, others⟩ := formedToo.entries_of_dict
    have back := entriesWithin_symm keys keysToo asMany
      (fun x inXs y inYs => ih x inXs (others y inYs)) within
    exact same_dict_iff.mpr ⟨_, rfl, asMany.symm, back⟩
  | field name ih =>
    obtain ⟨n, rfl, sameName⟩ := same_field_iff.mp alike
    cases formedToo with
    | atom atom => cases atom
    | field other => exact same_field_iff.mpr ⟨_, rfl, ih other sameName⟩
  | method name ih =>
    obtain ⟨n, rfl, sameName⟩ := same_method_iff.mp alike
    cases formedToo with
    | atom atom => cases atom
    | method other => exact same_method_iff.mpr ⟨_, rfl, ih other sameName⟩

theorem same_comm_of_wellFormed (formed : a.WellFormed) (formedToo : b.WellFormed) :
    same a b = same b a := by
  rw [Bool.eq_iff_iff]
  exact ⟨same_symm formed formedToo, same_symm formedToo formed⟩

end Value

end RecordRules
