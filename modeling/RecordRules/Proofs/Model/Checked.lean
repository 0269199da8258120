import RecordRules.Proofs.Evaluation

/-!
# What checks accept and refuse

A check of several parts accepts just what its parts accept (`both_ok_iff`, `each_ok_iff`).
A mapping from texts is accepted just when each of its keys and values is (`asNamed_ok_iff`), and a
field that may be left out when its value is, or it is missing (`optional_ok_iff`). A check that
refuses something has a problem to report (`Checked.Explained`), and the problems with a field lie in
it (`place_of_optional`).
-/

namespace RecordRules

variable {α β : Type}

/-- What a field that may be left out comes to: what its value means, or else the default. -/
def Entries.FieldIs (fields : Entries) (name : String) (default : α) (means : Value → α → Prop)
    (a : α) : Prop :=
  (fields.get? (.text name) = none ∧ a = default) ∨
    ∃ v, fields.get? (.text name) = some v ∧ means v a

namespace Checked

/-! ## What is accepted -/

theorem within_ok_iff {step : Step} {c : Checked α} {a : α} :
    within step c = .ok a ↔ c = .ok a :=
  ok_mapError_iff

theorem both_ok_iff {a : Checked α} {b : Checked β} {x : α} {y : β} :
    both a b = .ok (x, y) ↔ a = .ok x ∧ b = .ok y := by
  cases a <;> cases b <;> simp [both]

theorem each_ok_iff {check : α → Checked β} {xs : List α} {ys : List β} :
    each check xs = .ok ys ↔ List.Forall₂ (fun x y => check x = .ok y) xs ys := by
  induction xs generalizing ys with
  | nil => cases ys <;> simp [each]
  | cons x xs ih =>
    simp only [each, ok_map_iff, Prod.exists, both_ok_iff, List.forall₂_cons_left_iff, ih]
    constructor
    · rintro ⟨y, rest, ⟨first, others⟩, rfl⟩
      exact ⟨y, rest, first, others, rfl⟩
    · rintro ⟨y, rest, first, others, rfl⟩
      exact ⟨y, rest, ⟨first, others⟩, rfl⟩

/-- A collection is accepted just when each of its members is. -/
theorem asListOf_ok_iff {check : Value → Checked α} {v : Value} {found : List α} :
    v.asListOf check = .ok found ↔
      ∃ items, v.elements? = some items ∧ List.Forall₂ (fun v a => check v = .ok a) items found := by
  unfold Value.asListOf
  cases v.elements? with
  | none => simp [refuse]
  | some items =>
    have members : items.zipIdx.map Prod.fst = items := by simp
    simp only [Option.some.injEq, exists_eq_left']
    conv_rhs => rw [← members]
    simp only [each_ok_iff, within_ok_iff, List.forall₂_map_left_iff]

theorem asListOf_list_ok_iff {check : Value → Checked α} {items : List Value} {found : List α} :
    (Value.list items).asListOf check = .ok found ↔
      List.Forall₂ (fun v a => check v = .ok a) items found := by
  simp [asListOf_ok_iff, Value.elements?]

theorem optional_ok_iff {fields : Entries} {name : String} {default a : α}
    {check : Value → Checked α} :
    fields.optional name default check = .ok a ↔
      fields.FieldIs name default (fun v a => check v = .ok a) a := by
  unfold Entries.optional Entries.FieldIs
  cases fields.get? (.text name) with
  | none => simp [eq_comm]
  | some v => simp [within_ok_iff]

theorem asNamed_ok_iff {check : Value → Checked α} {v : Value} {found : Named α} :
    v.asNamed check = .ok found ↔
      ∃ entries pairs, v = .dict entries ∧ found = Named.ofList pairs ∧
        List.Forall₂ (fun entry pair => entry.1.asText = .ok pair.1 ∧ check entry.2 = .ok pair.2)
          entries pairs := by
  cases v with
  | dict entries =>
    have apart {key value : Value} {step : Step} {pair : String × α} :
        within step (both (within (.name "[key]") key.asText) (check value)) = .ok pair ↔
          key.asText = .ok pair.1 ∧ check value = .ok pair.2 := by
      obtain ⟨name, a⟩ := pair
      rw [within_ok_iff, both_ok_iff, within_ok_iff]
    simp only [Value.asNamed, ok_bind_iff, ok_pure_iff, each_ok_iff, apart]
    constructor
    · rintro ⟨pairs, each, rfl⟩
      exact ⟨entries, pairs, rfl, rfl, each⟩
    · rintro ⟨_, pairs, same, rfl, each⟩
      obtain rfl := Value.dict.inj same
      exact ⟨pairs, each, rfl⟩
  | _ => simp [Value.asNamed, refuse]

/-! ## What is refused -/

/-- That a check has a problem to report if it refuses. -/
def Explained (c : Checked α) : Prop := c ≠ .error []

namespace Explained

variable {c : Checked α} {d : Checked β}

theorem ok (a : α) : Explained (.ok a) := nofun

theorem refuse (v : Value) (kind text : String) :
    Explained (Checked.refuse v kind text : Checked α) := by
  simp [Explained, Checked.refuse]

theorem within (explained : Explained c) (step : Step) : Explained (within step c) := by
  cases c with
  | ok a => exact .ok a
  | error problems => simpa [Explained, Checked.within, Except.mapError] using explained

theorem map (explained : Explained c) (f : α → β) : Explained (c.map f) := by
  cases c with
  | ok a => exact .ok (f a)
  | error problems => simpa [Explained, Except.map] using explained

theorem bind {next : α → Checked β} (explained : Explained c)
    (explainedNext : ∀ a, Explained (next a)) : Explained (c >>= next) := by
  intro refused
  rcases error_bind_iff.mp refused with first | ⟨a, _, later⟩
  · exact explained first
  · exact explainedNext a later

theorem both (explained : Explained c) (explainedToo : Explained d) : Explained (both c d) := by
  cases c <;> cases d <;> simp_all [Explained, Checked.both]

theorem each {check : α → Checked β} (explained : ∀ a, Explained (check a)) (xs : List α) :
    Explained (each check xs) := by
  induction xs with
  | nil => exact .ok []
  | cons x rest ih => exact ((explained x).both ih).map _

theorem asText (v : Value) : Explained v.asText := by
  cases v with
  | text s => exact .ok s
  | sentinel s => exact .ok s.text
  | bytes bs =>
    cases decoded : Value.decoded? bs with
    | some s => simp [Value.asText, decoded, Explained]
    | none =>
      simp only [Value.asText, decoded]
      exact .refuse _ _ _
  | _ => exact .refuse _ _ _

theorem asBool (v : Value) : Explained v.asBool := by
  unfold Value.asBool
  dsimp only
  -- What is no word and no number is refused at once; the others may mean no truth value.
  split
  · exact .ok _
  · split
    · exact .ok _
    · exact .refuse _ _ _
  · split
    · exact .ok _
    · exact .refuse _ _ _
  · split
    · split
      · exact .ok _
      · exact .refuse _ _ _
    · exact .refuse _ _ _
  · split
    · split
      · exact .ok _
      · exact .refuse _ _ _
    · exact .refuse _ _ _
  · exact .refuse _ _ _

theorem asFields (model : String) (v : Value) : Explained (v.asFields model) := by
  cases v with
  | dict entries => exact .ok entries
  | _ => exact .refuse _ _ _

theorem asNamed {check : Value → Checked α} (explained : ∀ v, Explained (check v)) (v : Value) :
    Explained (v.asNamed check) := by
  cases v with
  | dict entries =>
    refine .bind (.each (fun entry => ?_) entries) fun pairs => .ok _
    exact (((asText entry.1).within _).both (explained entry.2)).within _
  | _ => exact .refuse _ _ _

theorem asListOf {check : Value → Checked α} (explained : ∀ v, Explained (check v)) (v : Value) :
    Explained (v.asListOf check) := by
  unfold Value.asListOf
  split
  · exact .each (fun (item : Value × Nat) => (explained item.1).within _) _
  · exact .refuse _ _ _

theorem optional {check : Value → Checked α} (explained : ∀ v, Explained (check v))
    (fields : Entries) (name : String) (default : α) :
    Explained (fields.optional name default check) := by
  unfold Entries.optional
  split
  next v _ => exact (explained v).within _
  · exact .ok default

end Explained

/-- A problem of two checks is a problem of one of them. -/
theorem problem_of_both {c : Checked α} {d : Checked β} {problems : List Problem}
    (refused : both c d = .error problems) {p : Problem} (member : p ∈ problems) :
    (∃ others, c = .error others ∧ p ∈ others) ∨ ∃ others, d = .error others ∧ p ∈ others := by
  cases c <;> cases d <;> cases refused
  · rcases List.mem_append.mp member with inFirst | inSecond
    · exact .inl ⟨_, rfl, inFirst⟩
    · exact .inr ⟨_, rfl, inSecond⟩
  · exact .inl ⟨_, rfl, member⟩
  · exact .inr ⟨_, rfl, member⟩

/-- The problems with a field lie in it. -/
theorem place_of_optional {fields : Entries} {name : String} {default : α}
    {check : Value → Checked α} {problems : List Problem}
    (refused : fields.optional name default check = .error problems) {p : Problem}
    (member : p ∈ problems) : p.place.head? = some (.name name) := by
  unfold Entries.optional at refused
  split at refused
  next v _ =>
    cases checked : check v with
    | ok a =>
      rw [checked] at refused
      cases refused
    | error inner =>
      rw [checked] at refused
      obtain rfl := Except.error.inj refused
      obtain ⟨q, _, rfl⟩ := List.mem_map.mp member
      rfl
  · cases refused

end Checked

end RecordRules
