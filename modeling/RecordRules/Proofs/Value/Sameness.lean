import RecordRules.Proofs.Value.Keys
import RecordRules.Value.Collection

/-!
# Sameness

Every value is the same as itself (`Value.same_refl`), and what is the same as a third by way of a
second is the same as it (`Value.same_trans`), also within collections and where a whole number is
the same as a truth value. So whether a collection holds a value is not changed by putting other
leaves in the place of its own that are the same (`Value.memberOf_of_within`), and still less by
nesting, repeating or reordering them (`Value.sameLeaves_of_mem_iff`).
-/

namespace RecordRules

namespace Value

variable {a b c : Value}

mutual

/-- What is the same as a key is a key. -/
theorem key_of_keyForm_eq (a b : Value) (key : a.changeable? = none)
    (alike : a.keyForm = b.keyForm) : b.changeable? = none := by
  cases a with
  | tuple xs =>
    cases b with
    | tuple ys =>
      simp only [keyForm, KeyForm.tuple.injEq] at alike
      exact keys_of_keyForms_eq xs ys key alike
    | _ => simp [keyForm] at alike
  | field m =>
    cases b with
    | field n =>
      simp only [keyForm, KeyForm.field.injEq] at alike
      exact key_of_keyForm_eq m n key alike
    | _ => simp [keyForm] at alike
  | method m =>
    cases b with
    | method n =>
      simp only [keyForm, KeyForm.method.injEq] at alike
      exact key_of_keyForm_eq m n key alike
    | _ => simp [keyForm] at alike
  | list _ | set _ | keys _ | dict _ => simp [changeable?] at key
  | _ => cases b <;> simp [keyForm] at alike <;> rfl

theorem keys_of_keyForms_eq (xs ys : List Value) (keys : firstChangeable? xs = none)
    (alike : keyForms xs = keyForms ys) : firstChangeable? ys = none := by
  cases xs with
  | nil =>
    cases ys with
    | nil => rfl
    | cons y ys => simp [keyForms] at alike
  | cons x xs =>
    cases ys with
    | nil => simp [keyForms] at alike
    | cons y ys =>
      simp only [keyForms, List.cons.injEq] at alike
      rw [firstChangeable?_cons_iff] at keys ⊢
      exact ⟨key_of_keyForm_eq x y keys.1 alike.1, keys_of_keyForms_eq xs ys keys.2 alike.2⟩

end

/-! ## Every value is the same as itself -/

theorem allWithin_iff {xs ys : List Value} :
    allWithin xs ys = true ↔ ∀ x ∈ xs, ∃ y ∈ ys, same x y = true := by
  induction xs with
  | nil => simp [allWithin]
  | cons x xs ih => simp [allWithin, ih]

theorem entriesWithin_iff {xs ys : Entries} :
    entriesWithin xs ys = true ↔
      ∀ x ∈ xs, ∃ y ∈ ys, same x.1 y.1 = true ∧ same x.2 y.2 = true := by
  induction xs with
  | nil => simp [entriesWithin]
  | cons x xs ih =>
    obtain ⟨k, v⟩ := x
    simp [entriesWithin, ih]

mutual

/-- Every value is the same as itself. -/
theorem same_refl (v : Value) : same v v = true := by
  cases v with
  | list items =>
    rw [same]
    exact sameLists_refl items
  | tuple items =>
    rw [same]
    exact sameLists_refl items
  | set members =>
    simp only [same, members?, beq_self_eq_true, Bool.true_and]
    exact allWithin_iff.mpr fun x member => ⟨x, member, same_refl_of_mem members x member⟩
  | keys names =>
    simp only [same, members?, beq_self_eq_true, Bool.true_and]
    exact allWithin_iff.mpr fun x member => ⟨x, member, same_refl_of_mem names x member⟩
  | dict entries =>
    simp only [same, beq_self_eq_true, Bool.true_and]
    exact entriesWithin_iff.mpr fun x member =>
      ⟨x, member, same_refl_of_mem_entries entries x member⟩
  | field name =>
    rw [same]
    exact same_refl name
  | method name =>
    rw [same]
    exact same_refl name
  | _ => exact same_self rfl

theorem sameLists_refl (items : List Value) : sameLists items items = true := by
  cases items with
  | nil => simp [sameLists]
  | cons first rest =>
    simp only [sameLists, Bool.and_eq_true]
    exact ⟨same_refl first, sameLists_refl rest⟩

theorem same_refl_of_mem (values : List Value) : ∀ x ∈ values, same x x = true := by
  cases values with
  | nil => simp
  | cons first rest =>
    exact List.forall_mem_cons.mpr ⟨same_refl first, same_refl_of_mem rest⟩

theorem same_refl_of_mem_entries (entries : List (Value × Value)) :
    ∀ x ∈ entries, same x.1 x.1 = true ∧ same x.2 x.2 = true := by
  cases entries with
  | nil => simp
  | cons first rest =>
    obtain ⟨k, v⟩ := first
    exact List.forall_mem_cons.mpr ⟨⟨same_refl k, same_refl v⟩, same_refl_of_mem_entries rest⟩

end

/-! ## Sameness by way of a third value -/

theorem same_list_iff {xs : List Value} :
    same (list xs) b = true ↔ ∃ ys, b = list ys ∧ sameLists xs ys = true := by
  cases b <;> simp [same, sameAtom, quantity?]

theorem same_tuple_iff {xs : List Value} :
    same (tuple xs) b = true ↔ ∃ ys, b = tuple ys ∧ sameLists xs ys = true := by
  cases b <;> simp [same, sameAtom, quantity?]

theorem same_dict_iff {xs : Entries} : same (dict xs) b = true ↔
    ∃ ys, b = dict ys ∧ xs.length = ys.length ∧ entriesWithin xs ys = true := by
  cases b <;> simp [same, sameAtom, quantity?]

theorem same_field_iff {m : Value} :
    same (field m) b = true ↔ ∃ n, b = field n ∧ same m n = true := by
  cases b <;> simp [same, sameAtom, quantity?]

theorem same_method_iff {m : Value} :
    same (method m) b = true ↔ ∃ n, b = method n ∧ same m n = true := by
  cases b <;> simp [same, sameAtom, quantity?]

/-- What has members is the same as what has as many, among which its own are. -/
theorem same_members_iff {xs : List Value} (members : a.members? = some xs) :
    same a b = true ↔
      ∃ ys, b.members? = some ys ∧ xs.length = ys.length ∧ allWithin xs ys = true := by
  cases a with
  | set _ | keys _ =>
    cases members
    cases others : b.members? <;> simp [same, others]
  | _ => cases members

theorem same_trans_of_key (key : a.changeable? = none) (first : same a b = true)
    (second : same b c = true) : same a c = true := by
  have alike := (same_iff_keyForm a b (.inl key)).mp first
  have keyToo := key_of_keyForm_eq a b key alike
  exact (same_iff_keyForm a c (.inl key)).mpr
    (alike.trans ((same_iff_keyForm b c (.inl keyToo)).mp second))

mutual

/-- What is the same as a third value by way of a second is the same as it. -/
theorem same_trans (a b c : Value) (first : same a b = true) (second : same b c = true) :
    same a c = true := by
  -- What the first value is decides what the others are, so the recursion is on it alone.
  cases a with
  | list xs =>
    obtain ⟨ys, rfl, firstItems⟩ := same_list_iff.mp first
    obtain ⟨zs, rfl, secondItems⟩ := same_list_iff.mp second
    exact same_list_iff.mpr ⟨zs, rfl, sameLists_trans xs ys zs firstItems secondItems⟩
  | tuple xs =>
    obtain ⟨ys, rfl, firstItems⟩ := same_tuple_iff.mp first
    obtain ⟨zs, rfl, secondItems⟩ := same_tuple_iff.mp second
    exact same_tuple_iff.mpr ⟨zs, rfl, sameLists_trans xs ys zs firstItems secondItems⟩
  | set xs | keys xs =>
    obtain ⟨ys, members, asMany, within⟩ := (same_members_iff rfl).mp first
    obtain ⟨zs, others, asManyToo, withinToo⟩ := (same_members_iff members).mp second
    exact (same_members_iff rfl).mpr
      ⟨zs, others, asMany.trans asManyToo, allWithin_trans xs ys zs within withinToo⟩
  | dict xs =>
    obtain ⟨ys, rfl, asMany, within⟩ := same_dict_iff.mp first
    obtain ⟨zs, rfl, asManyToo, withinToo⟩ := same_dict_iff.mp second
    exact same_dict_iff.mpr
      ⟨zs, rfl, asMany.trans asManyToo, entriesWithin_trans xs ys zs within withinToo⟩
  | field m =>
    obtain ⟨n, rfl, firstName⟩ := same_field_iff.mp first
    obtain ⟨o, rfl, secondName⟩ := same_field_iff.mp second
    exact same_field_iff.mpr ⟨o, rfl, same_trans m n o firstName secondName⟩
  | method m =>
    obtain ⟨n, rfl, firstName⟩ := same_method_iff.mp first
    obtain ⟨o, rfl, secondName⟩ := same_method_iff.mp second
    exact same_method_iff.mpr ⟨o, rfl, same_trans m n o firstName secondName⟩
  | _ =>
    -- What is left holds no other value and can be a key.
    exact same_trans_of_key rfl first second
termination_by structural a

theorem sameLists_trans (xs ys zs : List Value) (first : sameLists xs ys = true)
    (second : sameLists ys zs = true) : sameLists xs zs = true := by
  cases xs with
  | nil => cases ys <;> simp_all [sameLists]
  | cons x xs =>
    cases ys with
    | nil => simp [sameLists] at first
    | cons y ys =>
      cases zs with
      | nil => simp [sameLists] at second
      | cons z zs =>
        simp only [sameLists, Bool.and_eq_true] at first second ⊢
        exact ⟨same_trans x y z first.1 second.1, sameLists_trans xs ys zs first.2 second.2⟩
termination_by structural xs

theorem allWithin_trans (xs ys zs : List Value) (first : allWithin xs ys = true)
    (second : allWithin ys zs = true) : allWithin xs zs = true := by
  cases xs with
  | nil => simp [allWithin]
  | cons x xs =>
    obtain ⟨⟨y, inYs, sameY⟩, rest⟩ := List.forall_mem_cons.mp (allWithin_iff.mp first)
    obtain ⟨z, inZs, sameZ⟩ := allWithin_iff.mp second y inYs
    have others := allWithin_trans xs ys zs (allWithin_iff.mpr rest) second
    exact allWithin_iff.mpr (List.forall_mem_cons.mpr
      ⟨⟨z, inZs, same_trans x y z sameY sameZ⟩, allWithin_iff.mp others⟩)
termination_by structural xs

theorem entriesWithin_trans (xs ys zs : List (Value × Value)) (first : entriesWithin xs ys = true)
    (second : entriesWithin ys zs = true) : entriesWithin xs zs = true := by
  cases xs with
  | nil => simp [entriesWithin]
  | cons x xs =>
    obtain ⟨k, v⟩ := x
    obtain ⟨⟨y, inYs, sameKey, sameValue⟩, rest⟩ :=
      List.forall_mem_cons.mp (entriesWithin_iff.mp first)
    obtain ⟨z, inZs, sameKeyToo, sameValueToo⟩ := entriesWithin_iff.mp second y inYs
    have others := entriesWithin_trans xs ys zs (entriesWithin_iff.mpr rest) second
    exact entriesWithin_iff.mpr (List.forall_mem_cons.mpr
      ⟨⟨z, inZs, same_trans k y.1 z.1 sameKey sameKeyToo,
        same_trans v y.2 z.2 sameValue sameValueToo⟩, entriesWithin_iff.mp others⟩)
termination_by structural xs

end

/-! ## Leaves -/

/-- That each leaf of either of two collections is the same as one of the other. -/
def SameLeaves (c other : Value) : Prop :=
  (∀ x ∈ c.flatten, x.memberOf other.flatten = true) ∧
    ∀ x ∈ other.flatten, x.memberOf c.flatten = true

theorem memberOf_of_mem {v : Value} {values : List Value} (member : v ∈ values) :
    v.memberOf values = true :=
  List.any_eq_true.mpr ⟨v, member, same_refl v⟩

/-- Collections have the same leaves if they have the very same ones, however nested, repeated and
    ordered. -/
theorem sameLeaves_of_mem_iff {c other : Value}
    (leaves : ∀ x, x ∈ c.flatten ↔ x ∈ other.flatten) : SameLeaves c other :=
  ⟨fun x member => memberOf_of_mem ((leaves x).mp member),
    fun x member => memberOf_of_mem ((leaves x).mpr member)⟩

/-- A value is among values each of which is the same as one of others only if it is among those. -/
theorem memberOf_of_within {v : Value} {values others : List Value}
    (within : ∀ x ∈ values, x.memberOf others = true) (member : v.memberOf values = true) :
    v.memberOf others = true := by
  obtain ⟨x, inValues, alike⟩ := List.any_eq_true.mp member
  obtain ⟨y, inOthers, alikeToo⟩ := List.any_eq_true.mp (within x inValues)
  exact List.any_eq_true.mpr ⟨y, inOthers, same_trans y x v alikeToo alike⟩

theorem SameLeaves.memberOf_eq {c other : Value} (leaves : SameLeaves c other) (v : Value) :
    v.memberOf c.flatten = v.memberOf other.flatten := by
  rw [Bool.eq_iff_iff]
  exact ⟨memberOf_of_within leaves.1, memberOf_of_within leaves.2⟩

end Value

end RecordRules
