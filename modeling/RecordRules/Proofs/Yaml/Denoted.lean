import RecordRules.Proofs.Value.Plain
import RecordRules.Proofs.Value.WellFormed
import RecordRules.Yaml.Document

/-!
# What a text of YAML denotes

Data from a text is built up from scalars, list by list and entry by entry (`Yaml.Hereditary.of_read`).
So it is plain (`Yaml.plain_of_read`), and its mappings hold no key twice
(`Yaml.wellFormed_of_read`).
-/

namespace RecordRules

theorem Value.isAtom_of_isScalar {v : Value} (scalar : v.isScalar = true) : v.isAtom = true := by
  cases v <;> first | rfl | cases scalar

namespace Yaml

open Value (Plain)

theorem scalar_of_written {w : Written} {v : Value} (denoted : w.value = .ok v) :
    v.isScalar = true := by
  unfold Written.value at denoted
  split at denoted
  · obtain ⟨day, _, isDate⟩ := ok_bind_iff.mp denoted
    obtain rfl := ok_pure_iff.mp isDate
    rfl
  dsimp only at denoted
  split at denoted
  · cases denoted
  obtain ⟨day, _, rest⟩ := ok_bind_iff.mp denoted
  split at rest
  · split at rest <;> first | cases rest | (split at rest <;> cases rest)
  split at rest
  · obtain rfl := ok_pure_iff.mp rest
    rfl
  · cases rest

theorem scalar_of_resolve {s : String} {v : Value} (resolved : resolve s = .ok v) :
    v.isScalar = true := by
  unfold resolve at resolved
  dsimp only at resolved
  split at resolved
  · obtain rfl := Except.ok.inj resolved
    rfl
  · obtain rfl := Except.ok.inj resolved
    rfl
  split at resolved
  · obtain ⟨n, _, isInt⟩ := ok_bind_iff.mp resolved
    obtain rfl := ok_pure_iff.mp isInt
    rfl
  split at resolved
  · cases resolved
  split at resolved
  · obtain rfl := Except.ok.inj resolved
    rfl
  split at resolved
  next w _ => exact scalar_of_written resolved
  · obtain rfl := Except.ok.inj resolved
    rfl

theorem scalar_of_keyOf {key : Node} {k : Value} (denoted : key.keyOf = .ok k) :
    k.isScalar = true := by
  unfold Node.keyOf at denoted
  split at denoted
  · obtain rfl := ok_pure_iff.mp denoted
    rfl
  obtain ⟨found, isScalar, rest⟩ := ok_bind_iff.mp denoted
  cases key with
  | scalar text plain =>
    cases plain with
    | true =>
      obtain ⟨v, resolved, rfl⟩ := ok_map_iff.mp isScalar
      obtain rfl := ok_pure_iff.mp rest
      exact scalar_of_resolve resolved
    | false =>
      obtain rfl := Except.ok.inj isScalar
      obtain rfl := ok_pure_iff.mp rest
      rfl
  | sequence _ | mapping _ =>
    obtain rfl := Except.ok.inj isScalar
    cases rest

/-! ## What holds of all data -/

/-- A property of scalars that lists have if their members have it, and that mappings keep when an
    entry is put into them under a scalar. -/
structure Hereditary (P : Value → Prop) : Prop where
  scalar {v : Value} (isScalar : v.isScalar = true) : P v
  list {items : List Value} (each : ∀ v ∈ items, P v) : P (.list items)
  empty : P (.dict [])
  put {entries : Entries} {k v : Value} (holds : P (.dict entries)) (isScalar : k.isScalar = true)
    (value : P v) : P (.dict (entries.put k v))

namespace Hereditary

variable {P : Value → Prop}

/-- Such a property holds of what nodes denote, whether a node, several, or pairs that are put into
    a mapping that has it. -/
theorem of_depth (closed : Hereditary P) (depth : Nat) :
    (∀ {node v}, valueOf depth node = .ok v → P v) ∧
      (∀ {nodes found}, valuesOf depth nodes = .ok found → ∀ v ∈ found, P v) ∧
      (∀ {entries pairs found}, entriesOf depth entries pairs = .ok found →
        P (.dict entries) → P (.dict found)) := by
  induction depth with
  | zero => exact ⟨nofun, nofun, nofun⟩
  | succ depth ih =>
    obtain ⟨ofNode, ofNodes, ofPairs⟩ := ih
    refine ⟨?_, ?_, ?_⟩
    · intro node v denoted
      cases node with
      | scalar text plain =>
        cases plain with
        | true => exact closed.scalar (scalar_of_resolve denoted)
        | false =>
          obtain rfl := Except.ok.inj denoted
          exact closed.scalar rfl
      | sequence items =>
        obtain ⟨found, each, isList⟩ := ok_bind_iff.mp denoted
        obtain rfl := ok_pure_iff.mp isList
        exact closed.list (ofNodes each)
      | mapping pairs =>
        rw [valueOf] at denoted
        split at denoted
        · obtain ⟨found, each, isDict⟩ := ok_bind_iff.mp denoted
          obtain rfl := ok_pure_iff.mp isDict
          exact ofPairs each closed.empty
        · cases denoted
    · intro nodes found denoted
      cases nodes with
      | nil =>
        obtain rfl := Except.ok.inj denoted
        exact nofun
      | cons node rest =>
        obtain ⟨v, first, afterFirst⟩ := ok_bind_iff.mp denoted
        obtain ⟨others, areOthers, all⟩ := ok_bind_iff.mp afterFirst
        obtain rfl := ok_pure_iff.mp all
        exact List.forall_mem_cons.mpr ⟨ofNode first, ofNodes areOthers⟩
    · intro entries pairs found denoted holds
      cases pairs with
      | nil =>
        obtain rfl := Except.ok.inj denoted
        exact holds
      | cons pair rest =>
        obtain ⟨k, isKey, afterKey⟩ := ok_bind_iff.mp denoted
        obtain ⟨v, isValue, all⟩ := ok_bind_iff.mp afterKey
        exact ofPairs all (closed.put holds (scalar_of_keyOf isKey) (ofNode isValue))

/-- Such a property holds of what a text denotes. -/
theorem of_read (closed : Hereditary P) {s : String} {v : Value} (denoted : read s = .ok v) :
    P v := by
  obtain ⟨ts, _, afterTokens⟩ := ok_bind_iff.mp denoted
  obtain ⟨single, _, rest⟩ := ok_bind_iff.mp afterTokens
  cases single with
  | none =>
    obtain rfl := ok_pure_iff.mp rest
    exact closed.scalar rfl
  | some node =>
    obtain ⟨_, _, afterCollected⟩ := ok_bind_iff.mp rest
    obtain ⟨_, _, value⟩ := ok_bind_iff.mp afterCollected
    exact (closed.of_depth _).1 value

end Hereditary

/-- Reading a text of YAML gives plain data. -/
theorem plain_of_read {s : String} {v : Value} (denoted : read s = .ok v) : v.Plain := by
  have closed : Hereditary Plain := {
    scalar := .scalar
    list := .list
    empty := Plain.dict_iff.mpr nofun
    put := fun plain isScalar plainValue => plain.put (.scalar isScalar) plainValue }
  exact closed.of_read denoted

/-- Reading a text of YAML gives mappings that hold no key twice. -/
theorem wellFormed_of_read {s : String} {v : Value} (denoted : read s = .ok v) :
    v.WellFormed := by
  have closed : Hereditary Value.WellFormed := {
    scalar := fun isScalar => .atom (Value.isAtom_of_isScalar isScalar)
    list := .list
    empty := .dict ⟨nofun, .nil⟩ nofun
    put := fun formed isScalar valueFormed => Value.wellFormed_dict_put formed
      (Value.key_of_isAtom (Value.isAtom_of_isScalar isScalar)) valueFormed }
  exact closed.of_read denoted

end Yaml

end RecordRules
