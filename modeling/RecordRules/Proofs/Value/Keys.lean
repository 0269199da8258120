import RecordRules.Value.Mapping

/-!
# Keys

A value is a key if its contents cannot change. Sameness of keys is equality of what they are made
up of (`same_iff_keyForm`), so it is an equivalence: a key stands for every value that is the same
as it (`same_congr`), and among several names it stands for one place only (`distinct_pairwise`).
-/

namespace RecordRules

/-- What makes up a value as a key. -/
inductive KeyForm where
  | null
  | number (quantity : Quantity)
  | text (s : String)
  | bytes (bytes : List UInt8)
  | tuple (items : List KeyForm)
  /-- The first member counts if there is one, and the step if there are two. -/
  | range (length : Nat) (start step : Option Int)
  | date (day : Date)
  | moment (zoned : Bool) (time : Int)
  | sentinel (s : Sentinel)
  | field (name : KeyForm)
  | method (name : KeyForm)
  | pattern (source : String)
  | computed (identity : Nat)
  | object (identity : Nat)
  /-- A value that is no key. -/
  | changeable

namespace Value

mutual

/-- The form of a value as a key. -/
def keyForm : Value → KeyForm
  | null => .null
  | bool b => .number (.ofInt (if b then 1 else 0))
  | int n => .number (.ofInt n)
  | float x => .number (.ofDouble x)
  | text s => .text s
  | bytes bs => .bytes bs
  | tuple items => .tuple (keyForms items)
  | range p =>
    .range p.length (if p.length = 0 then none else some p.start)
      (if p.length ≤ 1 then none else some p.step)
  | date d => .date d
  | moment m => .moment m.instant?.isSome (m.instant?.getD m.wall)
  | sentinel s => .sentinel s
  | field name => .field (keyForm name)
  | method name => .method (keyForm name)
  | pattern p => .pattern p.source
  | computed identity _ => .computed identity
  | object identity _ _ => .object identity
  | list _ | set _ | keys _ | dict _ => .changeable

/-- The form of each of several values. -/
def keyForms : List Value → List KeyForm
  | [] => []
  | v :: rest => keyForm v :: keyForms rest

end

/-! ## Sameness of keys -/

theorem agrees_iff (p q : Progression) :
    p.agrees q = true ↔ keyForm (range p) = keyForm (range q) := by
  unfold Progression.agrees keyForm
  by_cases lengths : p.length = q.length
  · simp only [lengths, beq_self_eq_true, Bool.true_and, KeyForm.range.injEq, true_and]
    by_cases empty : q.length = 0
    · simp [empty]
    · by_cases single : q.length = 1
      · simp [single]
      · have several : ¬q.length ≤ 1 := by omega
        simp [empty, single, several]
  · simp [lengths]

theorem times_eq_iff (m n : Int) :
    ((some (m, n)).any fun (x, y) => x == y) = true ↔
      KeyForm.moment false m = KeyForm.moment false n := by
  simp

theorem keyForm_of_unzoned {m : Moment} (unzoned : m.instant? = none) :
    keyForm (moment m) = .moment false m.wall := by
  rw [keyForm, unzoned]
  rfl

theorem comparable_iff (m n : Moment) :
    ((m.comparable? n).any fun (x, y) => x == y) = true ↔
      keyForm (moment m) = keyForm (moment n) := by
  cases here : m.instant? with
  | some x => cases there : n.instant? <;> simp [Moment.comparable?, here, there, keyForm]
  | none =>
    cases there : n.instant? with
    | some y => simp [Moment.comparable?, here, there, keyForm]
    | none =>
      -- The numbers are kept apart from where they come from, or they would be computed here.
      have compared : m.comparable? n = some (m.wall, n.wall) := by
        rw [Moment.comparable?, here, there]
      rw [compared, keyForm_of_unzoned here, keyForm_of_unzoned there]
      exact times_eq_iff _ _

theorem firstChangeable?_cons_iff {v : Value} {rest : List Value} :
    firstChangeable? (v :: rest) = none ↔
      v.changeable? = none ∧ firstChangeable? rest = none := by
  rw [firstChangeable?]
  cases v.changeable? <;> simp

theorem firstChangeable?_eq_none_iff {values : List Value} :
    firstChangeable? values = none ↔ ∀ v ∈ values, v.changeable? = none := by
  induction values with
  | nil => simp [firstChangeable?]
  | cons v rest ih => rw [firstChangeable?_cons_iff, ih, List.forall_mem_cons]

mutual

/-- Two values, one of which is a key, are the same just when they have one form. -/
theorem same_iff_keyForm (a b : Value) (key : a.changeable? = none ∨ b.changeable? = none) :
    same a b = true ↔ a.keyForm = b.keyForm := by
  cases a with
  | tuple xs =>
    cases b with
    | tuple ys =>
      simp only [same, keyForm, KeyForm.tuple.injEq]
      exact sameLists_iff_keyForms xs ys key
    | _ => simp [same, sameAtom, quantity?, keyForm]
  | field m =>
    cases b with
    | field n =>
      simp only [same, keyForm, KeyForm.field.injEq]
      exact same_iff_keyForm m n key
    | _ => simp [same, sameAtom, quantity?, keyForm]
  | method m =>
    cases b with
    | method n =>
      simp only [same, keyForm, KeyForm.method.injEq]
      exact same_iff_keyForm m n key
    | _ => simp [same, sameAtom, quantity?, keyForm]
  | range p =>
    cases b with
    | range q =>
      simp only [same, sameAtom]
      exact agrees_iff p q
    | _ => simp [same, sameAtom, quantity?, keyForm]
  | moment m =>
    cases b with
    | moment n =>
      simp only [same, sameAtom]
      exact comparable_iff m n
    | _ => simp [same, sameAtom, quantity?, keyForm]
  | list _ | set _ | keys _ | dict _ =>
    cases b <;> simp_all [same, sameAtom, quantity?, members?, keyForm, changeable?]
  | _ => cases b <;> simp [same, sameAtom, quantity?, keyForm]

theorem sameLists_iff_keyForms (xs ys : List Value)
    (key : firstChangeable? xs = none ∨ firstChangeable? ys = none) :
    sameLists xs ys = true ↔ keyForms xs = keyForms ys := by
  cases xs with
  | nil => cases ys <;> simp [sameLists, keyForms]
  | cons x xs =>
    cases ys with
    | nil => simp [sameLists, keyForms]
    | cons y ys =>
      rw [firstChangeable?_cons_iff, firstChangeable?_cons_iff] at key
      have first := same_iff_keyForm x y (key.imp And.left And.left)
      have others := sameLists_iff_keyForms xs ys (key.imp And.right And.right)
      simp [sameLists, keyForms, first, others]

end

theorem same_self {v : Value} (key : v.changeable? = none) : same v v = true :=
  (same_iff_keyForm v v (.inl key)).mpr rfl

theorem same_comm {a b : Value} (key : b.changeable? = none) : same a b = same b a := by
  rw [Bool.eq_iff_iff, same_iff_keyForm a b (.inr key), same_iff_keyForm b a (.inl key)]
  exact eq_comm

/-- What is the same as a key is the same as the same keys. -/
theorem same_congr {a b c : Value} (keyB : b.changeable? = none) (keyC : c.changeable? = none)
    (alike : same a b = true) : same a c = same b c := by
  rw [Bool.eq_iff_iff, same_iff_keyForm a c (.inr keyC), same_iff_keyForm b c (.inr keyC),
    (same_iff_keyForm a b (.inr keyB)).mp alike]

theorem same_congr_right {a b c : Value} (keyB : b.changeable? = none)
    (keyC : c.changeable? = none) (alike : same b c = true) : same a b = same a c := by
  rw [Bool.eq_iff_iff, same_iff_keyForm a b (.inr keyB), same_iff_keyForm a c (.inr keyC),
    (same_iff_keyForm b c (.inr keyC)).mp alike]

/-- What is the same as one key and not as another keeps the two apart. -/
theorem same_eq_false {a b c : Value} (keyB : b.changeable? = none) (keyC : c.changeable? = none)
    (differs : ¬same a b = true) (alike : same a c = true) : same b c = false := by
  rw [Bool.eq_false_iff]
  intro sameToo
  exact differs (same_congr_right keyB keyC sameToo ▸ alike)

/-! ## Several keys -/

theorem asKey_of_key {v : Value} (key : v.changeable? = none) : v.asKey = .ok v := by
  rw [asKey, key]

/-- Values are keys one and all, or the first that is none is a fault. -/
theorem mapM_asKey (values : List Value) :
    values.mapM asKey =
      match firstChangeable? values with
      | some kind => .error (.unhashable kind)
      | none => .ok values := by
  induction values with
  | nil => rfl
  | cons v rest ih =>
    rw [List.mapM_cons, ih, asKey, firstChangeable?]
    cases v.changeable? with
    | some kind => rfl
    | none => cases firstChangeable? rest <;> rfl

/-- Values with one more, unless it is the same as one of them. -/
def keepNew (kept : List Value) (v : Value) : List Value :=
  if v.memberOf kept then kept else kept ++ [v]

theorem keepNew_cons_same {k v : Value} (rest : List Value) (alike : same k v = true) :
    keepNew (k :: rest) v = k :: rest := by
  simp [keepNew, memberOf, alike]

theorem keepNew_cons_other {k v : Value} (rest : List Value) (apart : ¬same k v = true) :
    keepNew (k :: rest) v = k :: keepNew rest v := by
  have later : v.memberOf (k :: rest) = v.memberOf rest := by simp [memberOf, apart]
  rw [keepNew, later, keepNew]
  split
  · rfl
  · rw [List.cons_append]

theorem distinct_eq_foldl (values : List Value) : distinct values = values.foldl keepNew [] := rfl

theorem mem_of_mem_keepNew {kept : List Value} {v w : Value} (member : v ∈ keepNew kept w) :
    v ∈ kept ∨ v = w := by
  unfold keepNew at member
  split at member
  · exact .inl member
  · simpa using member

theorem memberOf_keepNew {kept : List Value} {v w : Value} (key : v.changeable? = none)
    (there : v.memberOf kept = true ∨ v = w) : v.memberOf (keepNew kept w) = true := by
  unfold keepNew
  split
  next old => exact there.elim id fun isW => isW ▸ old
  next new =>
    rw [memberOf, List.any_append, Bool.or_eq_true]
    rcases there with before | rfl
    · exact .inl before
    · exact .inr (by simp [same_self key])

theorem pairwise_keepNew {kept : List Value} (v : Value)
    (apart : kept.Pairwise fun a b => same a b = false) :
    (keepNew kept v).Pairwise fun a b => same a b = false := by
  unfold keepNew
  split
  · exact apart
  next new =>
    simp only [memberOf, Bool.not_eq_true, List.any_eq_false] at new
    refine List.pairwise_append.mpr ⟨apart, List.pairwise_singleton _ _, fun a member b single => ?_⟩
    obtain rfl := List.mem_singleton.mp single
    exact new a member

theorem mem_of_mem_foldl {values kept : List Value} {v : Value}
    (member : v ∈ values.foldl keepNew kept) : v ∈ kept ∨ v ∈ values := by
  induction values generalizing kept with
  | nil => exact .inl member
  | cons first rest ih =>
    rcases ih member with inKept | inRest
    · rcases mem_of_mem_keepNew inKept with before | rfl
      · exact .inl before
      · exact .inr List.mem_cons_self
    · exact .inr (List.mem_cons_of_mem first inRest)

theorem memberOf_foldl {values kept : List Value} {v : Value} (key : v.changeable? = none)
    (there : v.memberOf kept = true ∨ v ∈ values) :
    v.memberOf (values.foldl keepNew kept) = true := by
  induction values generalizing kept with
  | nil => simpa using there
  | cons first rest ih =>
    refine ih ?_
    rcases there with before | listed
    · exact .inl (memberOf_keepNew key (.inl before))
    · rcases List.mem_cons.mp listed with isFirst | later
      · exact .inl (memberOf_keepNew key (.inr isFirst))
      · exact .inr later

theorem pairwise_foldl {values kept : List Value}
    (apart : kept.Pairwise fun a b => same a b = false) :
    (values.foldl keepNew kept).Pairwise fun a b => same a b = false := by
  induction values generalizing kept with
  | nil => exact apart
  | cons first rest ih => exact ih (pairwise_keepNew first apart)

theorem mem_of_mem_distinct {values : List Value} {v : Value} (member : v ∈ distinct values) :
    v ∈ values := by
  rw [distinct_eq_foldl] at member
  exact (mem_of_mem_foldl member).resolve_left List.not_mem_nil

/-- Each of some keys is the same as one of those that are kept. -/
theorem exists_same_of_mem {values : List Value} {v : Value} (key : v.changeable? = none)
    (member : v ∈ values) : ∃ kept ∈ distinct values, same kept v = true :=
  List.any_eq_true.mp (memberOf_foldl key (.inr member))

/-- A key is among some keys just when it is among those that are kept. -/
theorem memberOf_distinct {values : List Value} {v : Value}
    (keys : ∀ w ∈ values, w.changeable? = none) (key : v.changeable? = none) :
    v.memberOf (distinct values) = v.memberOf values := by
  rw [Bool.eq_iff_iff]
  simp only [memberOf, List.any_eq_true]
  constructor
  · rintro ⟨kept, member, alike⟩
    exact ⟨kept, mem_of_mem_distinct member, alike⟩
  · rintro ⟨w, member, alike⟩
    obtain ⟨kept, keptMember, keptAlike⟩ := exists_same_of_mem (keys w member) member
    exact ⟨kept, keptMember, (same_congr (keys w member) key keptAlike).trans alike⟩

/-- No two of those that are kept are the same. -/
theorem distinct_pairwise (values : List Value) :
    (distinct values).Pairwise fun a b => same a b = false :=
  pairwise_foldl List.Pairwise.nil

end Value

end RecordRules
