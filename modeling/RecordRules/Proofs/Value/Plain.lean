import Mathlib
import RecordRules.Proofs.Evaluation

/-!
# Plain data

Data from a file is made of scalars and of collections of data: it refers to nothing and computes
nothing. So it can always be shown (`Plain.display`).
-/

namespace RecordRules

namespace Value

/-- The values that are no collections and stand for themselves. -/
def isScalar : Value → Bool
  | .null | .bool _ | .int _ | .float _ | .text _ | .bytes _ | .date _ | .moment _ => true
  | _ => false

/-- Scalars, and collections of plain data. -/
inductive Plain : Value → Prop where
  | scalar {v : Value} (isScalar : isScalar v = true) : Plain v
  | list {items : List Value} (each : ∀ v ∈ items, Plain v) : Plain (.list items)
  | tuple {items : List Value} (each : ∀ v ∈ items, Plain v) : Plain (.tuple items)
  | set {members : List Value} (each : ∀ v ∈ members, Plain v) : Plain (.set members)
  | dict {entries : Entries} (keys : ∀ entry ∈ entries, Plain entry.1)
      (values : ∀ entry ∈ entries, Plain entry.2) : Plain (.dict entries)

namespace Plain

variable {v : Value} {entries : Entries}

/-- Only references are not always shown. -/
theorem display (plain : v.Plain) : ∃ s, v.display = .ok s := by
  cases plain with
  | scalar isScalar => cases v <;> first | exact ⟨_, rfl⟩ | cases isScalar
  | _ => exact ⟨_, rfl⟩

theorem of_text (s : String) : (Value.text s).Plain := .scalar rfl

theorem dict_iff : (Value.dict entries).Plain ↔
    ∀ entry ∈ entries, entry.1.Plain ∧ entry.2.Plain := by
  constructor
  · intro plain entry member
    cases plain with
    | scalar isScalar => cases isScalar
    | dict keys values => exact ⟨keys entry member, values entry member⟩
  · exact fun each => .dict (fun e member => (each e member).1) fun e member => (each e member).2

theorem of_get? (plain : (Value.dict entries).Plain) {key found : Value}
    (isFound : entries.get? key = some found) : found.Plain := by
  obtain ⟨entry, first, rfl⟩ := Option.map_eq_some_iff.mp isFound
  exact (dict_iff.mp plain entry (List.mem_of_find?_eq_some first)).2

theorem getD_get? (plain : (Value.dict entries).Plain) (word : String) {default : Value}
    (plainDefault : default.Plain) : ((entries.get? (.text word)).getD default).Plain := by
  cases found : entries.get? (.text word) with
  | none => exact plainDefault
  | some v => exact plain.of_get? found

theorem put (plain : (Value.dict entries).Plain) {key found : Value} (plainKey : key.Plain)
    (plainFound : found.Plain) : (Value.dict (entries.put key found)).Plain := by
  rw [dict_iff] at plain ⊢
  induction entries with
  | nil => exact List.forall_mem_singleton.mpr ⟨plainKey, plainFound⟩
  | cons first rest ih =>
    obtain ⟨plainFirst, plainRest⟩ := List.forall_mem_cons.mp plain
    unfold Entries.put
    split
    · exact List.forall_mem_cons.mpr ⟨⟨plainFirst.1, plainFound⟩, plainRest⟩
    · exact List.forall_mem_cons.mpr ⟨plainFirst, ih plainRest⟩

end Plain

end Value

end RecordRules
