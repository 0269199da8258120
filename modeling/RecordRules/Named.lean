/-!
# Named things

Things under names, in the order in which the names were first used. A later thing of a name takes
the place of the earlier one.
-/

namespace RecordRules

/-- Things by name. -/
abbrev Named (α : Type) := List (String × α)

namespace Named

/-- The things with one under a name. -/
def put {α : Type} (things : Named α) (name : String) (a : α) : Named α :=
  match things with
  | [] => [(name, a)]
  | (n, b) :: rest => if n == name then (n, a) :: rest else (n, b) :: put rest name a

/-- The things with another one in place of that of a name, if there is one. -/
def replace {α : Type} (things : Named α) (name : String) (a : α) : Named α :=
  match things with
  | [] => []
  | (n, b) :: rest => if n == name then (n, a) :: rest else (n, b) :: replace rest name a

/-- Things put one after another. -/
def ofList {α : Type} (pairs : List (String × α)) : Named α :=
  pairs.foldl (fun things (name, a) => things.put name a) []

/-- Things of which others of the same names take the place, and the others after them. -/
def overriddenBy {α : Type} (things others : Named α) : Named α :=
  (things.filter fun (name, _) => (others.lookup name).isNone) ++ others

/-- What is put under a name is found under it. -/
theorem lookup_put {α : Type} (things : Named α) (name : String) (a : α) :
    (things.put name a).lookup name = some a := by
  induction things with
  | nil => simp [put]
  | cons head rest ih =>
    by_cases same : head.1 = name
    · simp [put, same]
    · have differs : (head.1 == name) = false := by simpa using same
      have other : (name == head.1) = false := by simpa using fun e => same e.symm
      simp only [put, differs, Bool.false_eq_true, reduceIte, List.lookup_cons, other, ih]

/-- What is put under a name leaves the other names as they were. -/
theorem lookup_put_other {α : Type} (things : Named α) (name : String) (a : α) {other : String}
    (differ : other ≠ name) : (things.put name a).lookup other = things.lookup other := by
  have apart : (other == name) = false := beq_false_of_ne differ
  induction things with
  | nil => simp [put, List.lookup_cons, apart]
  | cons head rest ih =>
    obtain ⟨key, b⟩ := head
    by_cases same : key = name
    · simp [put, same, List.lookup_cons, apart]
    · have differs : (key == name) = false := beq_false_of_ne same
      simp only [put, differs, Bool.false_eq_true, reduceIte, List.lookup_cons, ih]

/-- What is replaced is found under its name, if anything was. -/
theorem lookup_replace {α : Type} (things : Named α) (name : String) (a : α) :
    (things.replace name a).lookup name = (things.lookup name).map fun _ => a := by
  induction things with
  | nil => rfl
  | cons head rest ih =>
    obtain ⟨key, b⟩ := head
    by_cases same : key = name
    · simp [replace, same]
    · have differs : (key == name) = false := beq_false_of_ne same
      have other : (name == key) = false := beq_false_of_ne fun e => same e.symm
      simp only [replace, differs, Bool.false_eq_true, reduceIte, List.lookup_cons, other, ih]

/-- What is replaced leaves the other names as they were. -/
theorem lookup_replace_other {α : Type} (things : Named α) (name : String) (a : α) {other : String}
    (differ : other ≠ name) : (things.replace name a).lookup other = things.lookup other := by
  have apart : (other == name) = false := beq_false_of_ne differ
  induction things with
  | nil => rfl
  | cons head rest ih =>
    obtain ⟨key, b⟩ := head
    by_cases same : key = name
    · simp [replace, same, List.lookup_cons, apart]
    · have differs : (key == name) = false := beq_false_of_ne same
      simp only [replace, differs, Bool.false_eq_true, reduceIte, List.lookup_cons, ih]

/-- A thing replaced by itself leaves all things as they were. -/
theorem replace_self {α : Type} {things : Named α} {name : String} {a : α}
    (found : ∀ b, things.lookup name = some b → b = a) : things.replace name a = things := by
  induction things with
  | nil => rfl
  | cons head rest ih =>
    obtain ⟨key, b⟩ := head
    by_cases same : key = name
    · have isThere : b = a := found b (by simp [same])
      simp [replace, same, isThere]
    · have differs : (key == name) = false := beq_false_of_ne same
      have other : (name == key) = false := beq_false_of_ne fun e => same e.symm
      have later : ∀ c, rest.lookup name = some c → c = a := by
        intro c there
        exact found c (by rw [List.lookup_cons, other]; exact there)
      simp only [replace, differs, Bool.false_eq_true, reduceIte, ih later]

end Named

end RecordRules
