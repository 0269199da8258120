import Mathlib.Data.String.Basic
import RecordRules.Proofs.Rule.Bound
import RecordRules.Proofs.Value.WellFormed
import RecordRules.Value.Order

/-!
# How values rank

Two values that can be ordered rank: whether the first is at most the second and whether it is at
least the second decide all four relations, and the equality of the two, both ways round
(`Ranked`). Sets that overlap are neither, and neither is what is no number. All other values refuse
every relation. That holds of values without members by a look at their kinds (`atoms_ranked`), and
of lists by way of the first items that differ (`ordered_ranked`). On one line, such as that of the
numbers or that of the texts, a value is always at most or at least another (`ordered_on_line`).
-/

namespace RecordRules

namespace Relation

/-- What a relation says, from whether the first value is at most the second and whether it is at
    least the second. -/
def decides : Relation → Bool → Bool → Bool
  | less, atMost, atLeast => atMost && !atLeast
  | lessOrEqual, atMost, _ => atMost
  | greater, atMost, atLeast => atLeast && !atMost
  | greaterOrEqual, _, atLeast => atLeast

/-- The relation of the second value to the first. -/
def converse : Relation → Relation
  | less => greater
  | lessOrEqual => greaterOrEqual
  | greater => less
  | greaterOrEqual => lessOrEqual

theorem decides_converse (r : Relation) (atMost atLeast : Bool) :
    r.converse.decides atMost atLeast = r.decides atLeast atMost := by
  cases r <;> rfl

theorem admits_eq (r : Relation) (o : Ordering) :
    r.admits o = r.decides (o != .gt) (o != .lt) := by
  cases r <;> cases o <;> rfl

theorem any_admits_eq (r : Relation) (o : Option Ordering) :
    o.any r.admits = r.decides (o.any (· != .gt)) (o.any (· != .lt)) := by
  cases o with
  | none => cases r <;> rfl
  | some o => exact r.admits_eq o

end Relation

/-- How two values rank, from what the relations say of them one way round and the other. -/
inductive Ranked (forward back : Relation → Except Fault Bool) (equal : Bool) : Prop where
  | ranked (atMost atLeast : Bool)
      (forward : ∀ r, forward r = .ok (r.decides atMost atLeast))
      (back : ∀ r, back r = .ok (r.decides atLeast atMost))
      (equal : equal = (atMost && atLeast))
  | refused (forward : ∀ r, ∃ e, forward r = .error e) (back : ∀ r, ∃ e, back r = .error e)

namespace Ranked

variable {forward back : Relation → Except Fault Bool} {equal : Bool}

/-- An order that may be missing ranks. -/
theorem of_option {o : Option Ordering} (there : ∀ r, forward r = .ok (o.any r.admits))
    (round : ∀ r, back r = .ok ((o.map Ordering.swap).any r.admits))
    (same : equal = (o == some .eq)) : Ranked forward back equal := by
  refine .ranked (o.any (· != .gt)) (o.any (· != .lt)) ?_ ?_ ?_
  · intro r
    rw [there, r.any_admits_eq]
  · intro r
    rw [round, r.any_admits_eq]
    rcases o with _ | (_ | _ | _) <;> rfl
  · rw [same]
    rcases o with _ | (_ | _ | _) <;> rfl

theorem of_order {o : Ordering} (there : ∀ r, forward r = .ok (r.admits o))
    (round : ∀ r, back r = .ok (r.admits o.swap)) (same : equal = (o == .eq)) :
    Ranked forward back equal :=
  of_option (o := some o) there round (by rw [same]; cases o <;> rfl)

/-- Every relation may be read as the one that is its converse. -/
theorem mirrored (ranked : Ranked forward back equal) :
    Ranked (fun r => forward r.converse) (fun r => back r.converse) equal := by
  cases ranked with
  | ranked atMost atLeast decided round same =>
    refine .ranked atLeast atMost (fun r => ?_) (fun r => ?_) ?_
    · rw [decided, r.decides_converse]
    · rw [round, r.decides_converse]
    · rw [same, Bool.and_comm]
  | refused refuses refusesToo =>
    exact .refused (fun r => refuses r.converse) (fun r => refusesToo r.converse)

theorem not_greater_and_atMost (ranked : Ranked forward back equal) :
    ¬(forward .greater = .ok true ∧ forward .lessOrEqual = .ok true) := by
  rintro ⟨greater, atMostToo⟩
  cases ranked with
  | ranked atMost atLeast decided round same =>
    rw [decided] at greater atMostToo
    cases atMost <;> simp [Relation.decides] at greater atMostToo
  | refused refuses back =>
    obtain ⟨e, refused⟩ := refuses .greater
    cases refused.symm.trans greater

theorem atLeast_iff (ranked : Ranked forward back equal) {b : Bool}
    (canBe : forward .greaterOrEqual = .ok b) :
    forward .greaterOrEqual = .ok true ↔ forward .greater = .ok true ∨ equal = true := by
  cases ranked with
  | ranked atMost atLeast decided round same =>
    rw [decided, decided, same]
    cases atMost <;> cases atLeast <;> simp [Relation.decides]
  | refused refuses back =>
    obtain ⟨e, refused⟩ := refuses .greaterOrEqual
    cases refused.symm.trans canBe

/-- Where the values change places, so do the relations. -/
theorem greater_iff_less_back (ranked : Ranked forward back equal) :
    forward .greater = .ok true ↔ back .less = .ok true := by
  cases ranked with
  | ranked atMost atLeast decided round same =>
    rw [decided, round]
    rfl
  | refused refuses refusesToo =>
    obtain ⟨e, refused⟩ := refuses .greater
    obtain ⟨e', refusedToo⟩ := refusesToo .less
    rw [refused, refusedToo]
    simp

end Ranked

/-! ## Orders -/

theorem Quantity.compare?_swap (x y : Quantity) :
    y.compare? x = (x.compare? y).map Ordering.swap := by
  cases x with
  | nan => cases y <;> rfl
  | infinite a =>
    cases y with
    | infinite b => cases a <;> cases b <;> rfl
    | nan | finite => cases a <;> rfl
  | finite m =>
    cases y with
    | finite n => exact congrArg some (Int.compare_swap m n).symm
    | infinite b => cases b <;> rfl
    | nan => rfl

theorem Quantity.compare?_eq_iff (x y : Quantity) :
    x.compare? y = some .eq ↔ x = y ∧ x.isNaN = false := by
  cases x with
  | nan => simp [compare?, isNaN]
  | infinite a =>
    cases y with
    | infinite b => cases a <;> cases b <;> simp [compare?, isNaN]
    | nan | finite => cases a <;> simp [compare?, isNaN]
  | finite m =>
    cases y with
    | infinite b => cases b <;> simp [compare?, isNaN]
    | nan | finite => simp [compare?, isNaN]

theorem compareText_swap (s t : String) : compareText t s = (compareText s t).swap := by
  unfold compareText
  rcases lt_trichotomy s t with less | rfl | greater
  · simp [less, less.asymm, less.ne']
  · simp
  · simp [greater, greater.asymm, greater.ne']

theorem compareText_eq_iff (s t : String) : compareText s t = .eq ↔ s = t := by
  unfold compareText
  rcases lt_trichotomy s t with less | rfl | greater
  · simp [less, less.ne]
  · simp
  · simp [greater.asymm, greater.ne']

theorem compareBytes_swap (xs ys : List UInt8) :
    compareBytes ys xs = (compareBytes xs ys).swap := by
  induction xs generalizing ys with
  | nil => cases ys <;> rfl
  | cons x xs ih =>
    cases ys with
    | nil => rfl
    | cons y ys =>
      simp only [compareBytes]
      rcases lt_trichotomy x.toNat y.toNat with less | equal | greater
      · rw [if_neg less.asymm, if_pos less, if_pos less]
        rfl
      · rw [if_neg equal.not_gt, if_neg equal.not_lt, if_neg equal.not_lt, if_neg equal.not_gt, ih]
      · rw [if_pos greater, if_neg greater.asymm, if_pos greater]
        rfl

theorem compareBytes_eq_iff (xs ys : List UInt8) : compareBytes xs ys = .eq ↔ xs = ys := by
  induction xs generalizing ys with
  | nil => cases ys <;> simp [compareBytes]
  | cons x xs ih =>
    cases ys with
    | nil => simp [compareBytes]
    | cons y ys =>
      simp only [compareBytes, List.cons.injEq, ← UInt8.toNat_inj, ← ih]
      rcases lt_trichotomy x.toNat y.toNat with less | equal | greater
      · simp [less, less.ne]
      · simp [equal]
      · simp [greater, greater.asymm, greater.ne']

theorem compareDate_swap (a b : Date) : compareDate b a = (compareDate a b).swap := by
  rw [compareDate_eq, compareDate_eq, Int.compare_swap]

theorem compareDate_eq_iff (a b : Date) : compareDate a b = .eq ↔ a = b := by
  unfold compareDate
  by_cases same : a = b
  · simp [same]
  · simp only [beq_iff_eq, same, if_false]
    split <;> simp

theorem Moment.comparable?_swap (x y : Moment) :
    y.comparable? x = (x.comparable? y).map Prod.swap := by
  unfold comparable?
  cases x.instant? <;> cases y.instant? <;> rfl

namespace Value

variable {a b : Value}

/-! ## Values without members -/

theorem atoms_of_quantities {x y : Quantity} (number : a.quantity? = some x)
    (numberToo : b.quantity? = some y) :
    Ranked (atomsOrdered · a b) (atomsOrdered · b a) (a.equals b) := by
  have same : same a b = (x == y) := by
    cases a <;> cases number <;> cases b <;> cases numberToo <;> simp [same, sameAtom, quantity?]
  refine .of_option (o := x.compare? y) (fun r => ?_) (fun r => ?_) ?_
  · simp only [atomsOrdered, number, numberToo]
  · simp only [atomsOrdered, number, numberToo, ← x.compare?_swap y]
  · rw [Bool.eq_iff_iff, beq_iff_eq, x.compare?_eq_iff y, equals, same, isNaN, number]
    simp

theorem moments_ranked (x y : Moment) :
    Ranked (atomsOrdered · (moment x) (moment y)) (atomsOrdered · (moment y) (moment x))
      ((moment x).equals (moment y)) := by
  have swap := x.comparable?_swap y
  cases compared : x.comparable? y with
  | none =>
    rw [compared] at swap
    refine .refused (fun r => ⟨.momentZones, ?_⟩) (fun r => ⟨.momentZones, ?_⟩)
    · simp [atomsOrdered, quantity?, members?, compared]
    · simp [atomsOrdered, quantity?, members?, swap]
  | some times =>
    obtain ⟨m, n⟩ := times
    rw [compared] at swap
    refine .of_order (o := compare m n) (fun r => ?_) (fun r => ?_) ?_
    · simp [atomsOrdered, quantity?, members?, compared]
    · simp [atomsOrdered, quantity?, members?, swap, Int.compare_swap]
    · rw [Bool.eq_iff_iff]
      simp [equals, same, sameAtom, isNaN, quantity?, compared]

/-- What as many values say of inclusion either way round. -/
theorem length_eq_and_within {xs ys : List Value} (keys : AreKeys xs) (keysToo : AreKeys ys) :
    (xs.length == ys.length && allWithin xs ys) = (allWithin xs ys && allWithin ys xs) := by
  rw [Bool.eq_iff_iff, Bool.and_eq_true, Bool.and_eq_true, beq_iff_eq]
  constructor
  · rintro ⟨asMany, within⟩
    exact ⟨within, keys.within_back keysToo within (Nat.le_of_eq asMany.symm)⟩
  · rintro ⟨within, withinToo⟩
    exact ⟨Nat.le_antisymm (keys.length_le within) (keysToo.length_le withinToo), within⟩

theorem length_lt_iff {xs ys : List Value} (keys : AreKeys xs) (keysToo : AreKeys ys)
    (within : allWithin xs ys = true) : xs.length < ys.length ↔ allWithin ys xs = false := by
  rw [← Bool.not_eq_true, ← Nat.not_le, not_iff_not]
  exact ⟨keys.within_back keysToo within, keysToo.length_le⟩

/-- Sets are ordered by inclusion: their sizes add nothing to it. -/
theorem setsOrdered_eq {xs ys : List Value} (keys : AreKeys xs) (keysToo : AreKeys ys)
    (r : Relation) : setsOrdered r xs ys = r.decides (allWithin xs ys) (allWithin ys xs) := by
  cases r with
  | less =>
    by_cases within : allWithin xs ys = true
    · simp [setsOrdered, Relation.decides, within, length_lt_iff keys keysToo within]
    · simp [setsOrdered, Relation.decides, within]
  | lessOrEqual =>
    by_cases within : allWithin xs ys = true
    · simp [setsOrdered, Relation.decides, within, keys.length_le within]
    · simp [setsOrdered, Relation.decides, within]
  | greater =>
    by_cases within : allWithin ys xs = true
    · simp [setsOrdered, Relation.decides, within, length_lt_iff keysToo keys within]
    · simp [setsOrdered, Relation.decides, within]
  | greaterOrEqual =>
    by_cases within : allWithin ys xs = true
    · simp [setsOrdered, Relation.decides, within, keysToo.length_le within]
    · simp [setsOrdered, Relation.decides, within]

theorem sets_ranked {xs ys : List Value} (members : a.members? = some xs)
    (membersToo : b.members? = some ys) (formed : a.WellFormed) (formedToo : b.WellFormed) :
    Ranked (atomsOrdered · a b) (atomsOrdered · b a) (a.equals b) := by
  have keys := formed.areKeys members
  have keysToo := formedToo.areKeys membersToo
  have noNumber : a.quantity? = none := by cases a <;> cases members <;> rfl
  have noNumberToo : b.quantity? = none := by cases b <;> cases membersToo <;> rfl
  have isSame : same a b = (xs.length == ys.length && allWithin xs ys) := by
    cases a <;> cases members <;> simp [same, membersToo]
  refine .ranked (allWithin xs ys) (allWithin ys xs) (fun r => ?_) (fun r => ?_) ?_
  · simp only [atomsOrdered, noNumber, members, membersToo, setsOrdered_eq keys keysToo]
  · simp only [atomsOrdered, noNumberToo, members, membersToo, setsOrdered_eq keysToo keys]
  · rw [equals, isSame, isNaN, noNumber, length_eq_and_within keys keysToo]
    simp

/-- Values without items rank, or refuse every relation. -/
theorem atoms_ranked (formed : a.WellFormed) (formedToo : b.WellFormed) :
    Ranked (atomsOrdered · a b) (atomsOrdered · b a) (a.equals b) := by
  cases a with
  | bool | int | float =>
    cases b with
    | bool | int | float => exact atoms_of_quantities rfl rfl
    | _ => exact .refused (fun r => ⟨_, rfl⟩) (fun r => ⟨_, rfl⟩)
  | set | keys =>
    cases b with
    | set | keys => exact sets_ranked rfl rfl formed formedToo
    | _ => exact .refused (fun r => ⟨_, rfl⟩) (fun r => ⟨_, rfl⟩)
  | text s =>
    cases b with
    | text t =>
      refine .of_order (o := compareText s t) (fun r => rfl) (fun r => ?_) ?_
      · rw [← compareText_swap]
        rfl
      · rw [Bool.eq_iff_iff]
        simp [equals, same, sameAtom, isNaN, quantity?, compareText_eq_iff]
    | _ => exact .refused (fun r => ⟨_, rfl⟩) (fun r => ⟨_, rfl⟩)
  | bytes xs =>
    cases b with
    | bytes ys =>
      refine .of_order (o := compareBytes xs ys) (fun r => rfl) (fun r => ?_) ?_
      · rw [← compareBytes_swap]
        rfl
      · rw [Bool.eq_iff_iff]
        simp [equals, same, sameAtom, isNaN, quantity?, compareBytes_eq_iff]
    | _ => exact .refused (fun r => ⟨_, rfl⟩) (fun r => ⟨_, rfl⟩)
  | date x =>
    cases b with
    | date y =>
      refine .of_order (o := compareDate x y) (fun r => rfl) (fun r => ?_) ?_
      · rw [← compareDate_swap]
        rfl
      · rw [Bool.eq_iff_iff]
        simp [equals, same, sameAtom, isNaN, quantity?, compareDate_eq_iff]
    | _ => exact .refused (fun r => ⟨_, rfl⟩) (fun r => ⟨_, rfl⟩)
  | moment x =>
    cases b with
    | moment y => exact moments_ranked x y
    | _ => exact .refused (fun r => ⟨_, rfl⟩) (fun r => ⟨_, rfl⟩)
  | _ => cases b <;> exact .refused (fun r => ⟨_, rfl⟩) (fun r => ⟨_, rfl⟩)

/-! ## Values with items -/

theorem lists_ranked {xs ys : List Value}
    (each : ∀ x ∈ xs, ∀ y ∈ ys, same y x = same x y ∧
      Ranked (ordered · x y) (ordered · y x) (x.equals y)) :
    Ranked (listsOrdered · xs ys) (listsOrdered · ys xs) (sameLists xs ys) := by
  induction xs generalizing ys with
  | nil =>
    cases ys with
    | nil => exact .of_order (o := .eq) (fun r => rfl) (fun r => rfl) (by simp [sameLists])
    | cons y ys => exact .of_order (o := .lt) (fun r => rfl) (fun r => rfl) (by simp [sameLists])
  | cons x xs ih =>
    cases ys with
    | nil => exact .of_order (o := .gt) (fun r => rfl) (fun r => rfl) (by simp [sameLists])
    | cons y ys =>
      obtain ⟨comm, first⟩ := each x List.mem_cons_self y List.mem_cons_self
      have rest := ih fun x' inXs y' inYs =>
        each x' (List.mem_cons_of_mem x inXs) y' (List.mem_cons_of_mem y inYs)
      simp only [listsOrdered, sameLists, comm]
      by_cases alike : same x y = true
      · simpa only [alike, reduceIte, Bool.true_and] using rest
      · -- The first items differ, so nothing after them counts.
        rw [Bool.not_eq_true] at alike
        simpa only [alike, Bool.false_eq_true, reduceIte, Bool.false_and, equals] using first

/-- Values are ordered by their items only if both have some. -/
theorem ordered_eq_atoms (noList : ∀ items, a ≠ list items) (noTuple : ∀ items, a ≠ tuple items)
    (r : Relation) (b : Value) :
    ordered r a b = atomsOrdered r a b ∧ ordered r b a = atomsOrdered r b a := by
  unfold ordered
  constructor
  · split
    · exact absurd rfl (noList _)
    · exact absurd rfl (noTuple _)
    · rfl
  · split
    · exact absurd rfl (noList _)
    · exact absurd rfl (noTuple _)
    · rfl

theorem ordered_ranked_of_atoms (noList : ∀ items, a ≠ list items)
    (noTuple : ∀ items, a ≠ tuple items) (formed : a.WellFormed) (formedToo : b.WellFormed) :
    Ranked (ordered · a b) (ordered · b a) (a.equals b) := by
  simp only [ordered_eq_atoms noList noTuple]
  exact atoms_ranked formed formedToo

/-- Well-formed values rank, or refuse every relation. -/
theorem ordered_ranked (formed : a.WellFormed) (formedToo : b.WellFormed) :
    Ranked (ordered · a b) (ordered · b a) (a.equals b) := by
  induction formed generalizing b with
  | @list xs each ih =>
    cases b with
    | list ys =>
      have others := formedToo.items_of_list
      have ranked := lists_ranked fun x inXs y inYs =>
        ⟨same_comm_of_wellFormed (others y inYs) (each x inXs), ih x inXs (others y inYs)⟩
      simpa [ordered, equals, same, isNaN, quantity?] using ranked
    | _ => exact .refused (fun r => ⟨_, rfl⟩) (fun r => ⟨_, rfl⟩)
  | @tuple xs each ih =>
    cases b with
    | tuple ys =>
      have others := formedToo.items_of_tuple
      have ranked := lists_ranked fun x inXs y inYs =>
        ⟨same_comm_of_wellFormed (others y inYs) (each x inXs), ih x inXs (others y inYs)⟩
      simpa [ordered, equals, same, isNaN, quantity?] using ranked
    | _ => exact .refused (fun r => ⟨_, rfl⟩) (fun r => ⟨_, rfl⟩)
  | @atom a atom =>
    refine ordered_ranked_of_atoms (fun items isList => ?_) (fun items isTuple => ?_) (.atom atom)
      formedToo
    · rw [isList] at atom
      cases atom
    · rw [isTuple] at atom
      cases atom
  | set each => exact ordered_ranked_of_atoms (by simp) (by simp) (.set each) formedToo
  | keys each => exact ordered_ranked_of_atoms (by simp) (by simp) (.keys each) formedToo
  | dict each values =>
    exact ordered_ranked_of_atoms (by simp) (by simp) (.dict each values) formedToo
  | field name => exact ordered_ranked_of_atoms (by simp) (by simp) (.field name) formedToo
  | method name => exact ordered_ranked_of_atoms (by simp) (by simp) (.method name) formedToo

/-! ## Refusals -/

theorem family_of_atomsOrdered {r : Relation} {e : Fault}
    (refused : atomsOrdered r a b = .error e) :
    e.family = .type := by
  unfold atomsOrdered at refused
  repeat' split at refused
  all_goals cases refused
  all_goals rfl

mutual

/-- Values that cannot be ordered are a fault about their kinds. -/
theorem family_of_ordered {r : Relation} {e : Fault} (a b : Value)
    (refused : ordered r a b = .error e) : e.family = .type := by
  unfold ordered at refused
  split at refused
  · exact family_of_listsOrdered _ _ refused
  · exact family_of_listsOrdered _ _ refused
  · exact family_of_atomsOrdered refused

theorem family_of_listsOrdered {r : Relation} {e : Fault} (xs ys : List Value)
    (refused : listsOrdered r xs ys = .error e) : e.family = .type := by
  unfold listsOrdered at refused
  split at refused
  · cases refused
  · cases refused
  · cases refused
  · split at refused
    · exact family_of_listsOrdered _ _ refused
    · exact family_of_ordered _ _ refused

end

/-! ## Lines -/

/-- That two values lie on one line: both are numbers, texts or dates alone, or they are moments
    that both have a timezone or both have none. -/
inductive OnOneLine : Value → Value → Prop where
  | numbers {a b : Value} {x y : Quantity} (first : a.quantity? = some x)
      (second : b.quantity? = some y) (there : x.isNaN = false) (thereToo : y.isNaN = false) :
      OnOneLine a b
  | texts (s t : String) : OnOneLine (text s) (text t)
  | dates (x y : Date) : OnOneLine (date x) (date y)
  | moments {m n : Moment} (zones : m.offset.isSome = n.offset.isSome) :
      OnOneLine (moment m) (moment n)

theorem exists_compare? {x y : Quantity} (there : x.isNaN = false) (thereToo : y.isNaN = false) :
    ∃ o, x.compare? y = some o := by
  cases x with
  | nan => cases there
  | infinite a =>
    cases y with
    | nan => cases thereToo
    | infinite | finite => exact ⟨_, rfl⟩
  | finite m =>
    cases y with
    | nan => cases thereToo
    | infinite | finite => exact ⟨_, rfl⟩

theorem exists_times {m n : Moment} (zones : m.offset.isSome = n.offset.isSome) :
    ∃ times, m.comparable? n = some times := by
  unfold Moment.comparable? Moment.instant?
  cases here : m.offset <;> cases there : n.offset <;> simp [here, there] at zones ⊢

/-- Two values on one line have one order, which all relations follow. -/
theorem ordered_on_line (line : OnOneLine a b) :
    ∃ o : Ordering, ∀ r, ordered r a b = .ok (r.admits o) := by
  cases line with
  | numbers first second there thereToo =>
    obtain ⟨o, compared⟩ := exists_compare? there thereToo
    refine ⟨o, fun r => ?_⟩
    have noList (items : List Value) : a ≠ list items := by
      rintro rfl
      cases first
    have noTuple (items : List Value) : a ≠ tuple items := by
      rintro rfl
      cases first
    rw [(ordered_eq_atoms noList noTuple r b).1]
    simp [atomsOrdered, first, second, compared]
  | texts s t => exact ⟨compareText s t, fun r => rfl⟩
  | dates x y => exact ⟨compareDate x y, fun r => rfl⟩
  | @moments m n zones =>
    obtain ⟨⟨x, y⟩, compared⟩ := exists_times zones
    refine ⟨compare x y, fun r => ?_⟩
    simp [ordered, atomsOrdered, quantity?, members?, compared]

end Value

end RecordRules
