import Mathlib.Data.List.Basic
import Mathlib.Tactic.Choose
import RecordRules.Value.Collection

/-!
# Leaves

A place within a value is a path of numbers, each of which says with which member to go on. The
leaves of a value are what its places hold that is no collection, from left to right, and flattening
gives just these (`exists_placed`). So it makes no difference how the members of a list are nested,
and what is flattened stays as it is (`flattened_to_leaves`).

No value that is no collection is the same as one. So a collection is among no leaves at all, not
even among those of a collection that it is itself a member of (`memberOf_flatten_of_isCollection`).
-/

namespace RecordRules

namespace Value

/-! ## Members -/

mutual

/-- What holds of a value whenever it holds of all its members holds of every value. -/
@[elab_as_elim]
theorem induct_elements {motive : Value → Prop}
    (step : ∀ v, (∀ items, v.elements? = some items → ∀ x ∈ items, motive x) → motive v)
    (v : Value) : motive v := by
  refine step v fun items has x member => ?_
  cases v with
  | list items | tuple items | set items | keys items =>
    cases has
    exact induct_members step items x member
  | range p =>
    cases has
    obtain ⟨n, _, rfl⟩ := List.mem_map.mp member
    exact step (int n) nofun
  | _ => cases has

theorem induct_members {motive : Value → Prop}
    (step : ∀ v, (∀ items, v.elements? = some items → ∀ x ∈ items, motive x) → motive v)
    (values : List Value) : ∀ x ∈ values, motive x := by
  cases values with
  | nil => simp
  | cons first rest =>
    exact List.forall_mem_cons.mpr ⟨induct_elements step first, induct_members step rest⟩

end

variable {v : Value} {items : List Value}

theorem isCollection_of_elements (has : v.elements? = some items) : v.isCollection = true := by
  rw [isCollection_iff_elements?, has]
  rfl

theorem elements_eq_none (leaf : v.isCollection = false) : v.elements? = none := by
  rwa [isCollection_iff_elements?, Option.isSome_eq_false_iff, Option.isNone_iff_eq_none] at leaf

theorem flatten_of_leaf (leaf : v.isCollection = false) : v.flatten = [v] := by
  cases v with
  | list | tuple | set | keys | range => cases leaf
  | _ => rfl

/-- The leaves of a collection are those of each of its members in turn. -/
theorem flatten_of_elements (has : v.elements? = some items) :
    v.flatten = items.flatMap flatten := by
  cases v with
  | list | tuple | set | keys =>
    cases has
    rw [flatten, flattenAll_eq_flatMap]
  | range p =>
    cases has
    rw [flatten, List.flatMap_map, List.map_eq_flatMap]
    rfl
  | _ => cases has

theorem flatten_list (items : List Value) : (list items).flatten = items.flatMap flatten :=
  flatten_of_elements rfl

/-! ## Places -/

/-- The value at a place within a value, if there is one. -/
def at? (v : Value) : List Nat → Option Value
  | [] => some v
  | i :: place => do (← (← v.elements?)[i]?).at? place

theorem at?_cons_of_elements (has : v.elements? = some items) {i : Nat} {place : List Nat}
    {x : Value} :
    v.at? (i :: place) = some x ↔ ∃ item, items[i]? = some item ∧ item.at? place = some x := by
  simp only [at?, has, Option.bind_eq_bind, Option.bind_some, Option.bind_eq_some_iff]

theorem at?_cons_of_leaf (leaf : v.isCollection = false) (i : Nat) (place : List Nat) :
    v.at? (i :: place) = none := by
  simp only [at?, elements_eq_none leaf, Option.bind_eq_bind, Option.bind_none]

/-- That a list has the leaves of a value, each with its place, from left to right: the places go up
    in lexicographic order. -/
structure Placed (v : Value) (placed : List (List Nat × Value)) : Prop where
  leaf : ∀ place x, (place, x) ∈ placed ↔ v.at? place = some x ∧ x.isCollection = false
  leftToRight : placed.Pairwise fun a b => a.1 < b.1

theorem placed_of_leaf (leaf : v.isCollection = false) : Placed v [([], v)] where
  leaf place x := by
    cases place with
    | nil =>
      simp only [List.mem_singleton, Prod.mk.injEq, true_and, at?, Option.some.injEq]
      constructor
      · rintro rfl
        exact ⟨rfl, leaf⟩
      · rintro ⟨rfl, _⟩
        rfl
    | cons i place => simp [at?_cons_of_leaf leaf]
  leftToRight := List.pairwise_singleton _ _

/-- The leaves of members with their places, each of which begins with the number of the member. -/
def placedAmong (items : List Value) (placedIn : Value → List (List Nat × Value)) :
    List (List Nat × Value) :=
  items.zipIdx.flatMap fun (item, i) => (placedIn item).map fun (place, x) => (i :: place, x)

theorem placed_of_elements (has : v.elements? = some items)
    {placedIn : Value → List (List Nat × Value)} (each : ∀ x ∈ items, Placed x (placedIn x)) :
    Placed v (placedAmong items placedIn) where
  leaf place x := by
    simp only [placedAmong, List.mem_flatMap, List.mem_map, Prod.exists, Prod.mk.injEq,
      List.mk_mem_zipIdx_iff_getElem?]
    constructor
    · rintro ⟨item, i, isItem, place, x, inItem, rfl, rfl⟩
      obtain ⟨there, leaf⟩ := ((each item (List.mem_of_getElem? isItem)).leaf place x).mp inItem
      exact ⟨(at?_cons_of_elements has).mpr ⟨item, isItem, there⟩, leaf⟩
    · rintro ⟨there, leaf⟩
      cases place with
      | nil =>
        -- The value itself is a collection and no leaf.
        obtain rfl := Option.some.inj there
        cases leaf.symm.trans (isCollection_of_elements has)
      | cons i place =>
        obtain ⟨item, isItem, there⟩ := (at?_cons_of_elements has).mp there
        exact ⟨item, i, isItem, place, x,
          ((each item (List.mem_of_getElem? isItem)).leaf place x).mpr ⟨there, leaf⟩, rfl, rfl⟩
  leftToRight := by
    have indices : items.zipIdx.Pairwise fun a b => a.2 < b.2 := by
      rw [← List.pairwise_map, List.zipIdx_map_snd]
      exact List.pairwise_lt_range'
    rw [placedAmong, List.pairwise_flatMap]
    constructor
    · rintro ⟨item, i⟩ isItem
      rw [List.pairwise_map]
      have among := List.mem_of_getElem? (List.mk_mem_zipIdx_iff_getElem?.mp isItem)
      refine (each item among).leftToRight.imp fun before => ?_
      exact List.cons_lt_cons_iff.mpr (.inr ⟨rfl, before⟩)
    · refine indices.imp fun {a b} before first inFirst second inSecond => ?_
      obtain ⟨_, _, rfl⟩ := List.mem_map.mp inFirst
      obtain ⟨_, _, rfl⟩ := List.mem_map.mp inSecond
      exact List.cons_lt_cons_iff.mpr (.inl before)

theorem map_snd_placedAmong {placedIn : Value → List (List Nat × Value)}
    (each : ∀ x ∈ items, (placedIn x).map Prod.snd = x.flatten) :
    (placedAmong items placedIn).map Prod.snd = items.flatMap flatten := by
  have alike : ∀ entry ∈ items.zipIdx,
      ((placedIn entry.1).map fun (place, x) => (entry.2 :: place, x)).map Prod.snd
        = entry.1.flatten := by
    intro entry isItem
    rw [List.map_map]
    exact each entry.1 (List.mem_of_getElem? (List.mem_zipIdx_iff_getElem?.mp isItem))
  calc (placedAmong items placedIn).map Prod.snd
    _ = items.zipIdx.flatMap fun entry => entry.1.flatten := by
      rw [placedAmong, List.map_flatMap]
      exact List.flatMap_congr alike
    _ = (items.zipIdx.map Prod.fst).flatMap flatten := (List.flatMap_map ..).symm
    _ = items.flatMap flatten := by rw [List.zipIdx_map_fst]

/-- What a value is flattened to are its leaves from left to right, none left out and none twice. -/
theorem exists_placed (v : Value) :
    ∃ placed, Placed v placed ∧ placed.map Prod.snd = v.flatten := by
  induction v using induct_elements with
  | step v ih =>
    cases has : v.elements? with
    | none =>
      have leaf : v.isCollection = false := by
        rw [isCollection_iff_elements?, has]
        rfl
      exact ⟨_, placed_of_leaf leaf, (flatten_of_leaf leaf).symm⟩
    | some items =>
      choose! placedIn isPlaced leaves using ih items has
      rw [flatten_of_elements has]
      exact ⟨_, placed_of_elements has isPlaced, map_snd_placedAmong leaves⟩

/-! ## Flattening -/

/-- No leaf is a collection. -/
theorem isCollection_of_mem_flatten (v : Value) : ∀ x ∈ v.flatten, x.isCollection = false := by
  obtain ⟨placed, isPlaced, leaves⟩ := exists_placed v
  intro x member
  rw [← leaves] at member
  obtain ⟨⟨place, x⟩, there, rfl⟩ := List.mem_map.mp member
  exact ((isPlaced.leaf place x).mp there).2

/-- Leaves are flattened to themselves. -/
theorem flatten_of_leaves {leaves : List Value} (each : ∀ x ∈ leaves, x.isCollection = false) :
    (list leaves).flatten = leaves := by
  rw [flatten_list]
  calc leaves.flatMap flatten
    _ = leaves.flatMap fun x => [x] :=
      List.flatMap_congr fun x member => flatten_of_leaf (each x member)
    _ = leaves := List.flatMap_singleton' leaves

theorem flatten_append (xs ys : List Value) :
    (list (xs ++ ys)).flatten = (list xs).flatten ++ (list ys).flatten := by
  simp only [flatten_list, List.flatMap_append]

/-- Members of a list may as well stand in a collection within it. -/
theorem flatten_nested {nested : Value} {inner : List Value} (has : nested.elements? = some inner)
    (before after : List Value) :
    (list (before ++ nested :: after)).flatten = (list (before ++ inner ++ after)).flatten := by
  simp only [flatten_list, List.flatMap_append, List.flatMap_cons, flatten_of_elements has,
    List.append_assoc]

/-- What a value is flattened to. -/
structure Flattened (v : Value) (leaves : List Value) : Prop where
  /-- No collection is left. -/
  leaf : ∀ x ∈ leaves, x.isCollection = false
  /-- A value that is no collection stays whole. -/
  whole : v.isCollection = false → leaves = [v]
  /-- A collection comes to what its members come to, one after another. -/
  inTurn : ∀ items, v.elements? = some items → leaves = (items.map flatten).flatten
  /-- Each leaf at any depth is there once for its place, from left to right. -/
  leftToRight : ∃ placed, Placed v placed ∧ placed.map Prod.snd = leaves
  /-- There is nothing left to flatten. -/
  again : (list leaves).flatten = leaves

theorem flattened (v : Value) : Flattened v v.flatten where
  leaf := isCollection_of_mem_flatten v
  whole := flatten_of_leaf
  inTurn items has := by rw [flatten_of_elements has, List.flatMap_def]
  leftToRight := exists_placed v
  again := flatten_of_leaves (isCollection_of_mem_flatten v)

/-- Every value is flattened to its leaves from left to right; texts, bytes and mappings are leaves.
    Lists one after another are flattened one after another, and whether consecutive members of a
    list stand in an inner list or tuple is of no consequence. -/
theorem flattened_to_leaves :
    (∀ v, Flattened v v.flatten) ∧
    ((∀ s, (text s).flatten = [text s]) ∧ (∀ b, (bytes b).flatten = [bytes b]) ∧
      ∀ entries, (dict entries).flatten = [dict entries]) ∧
    (∀ xs ys, (list (xs ++ ys)).flatten = (list xs).flatten ++ (list ys).flatten) ∧
    ∀ before inner after,
      let unnested := (list (before ++ inner ++ after)).flatten
      (list (before ++ list inner :: after)).flatten = unnested ∧
        (list (before ++ tuple inner :: after)).flatten = unnested := by
  refine ⟨flattened, ⟨?_, ?_, ?_⟩, flatten_append, fun before inner after => ⟨?_, ?_⟩⟩
  · exact fun s => flatten_of_leaf rfl
  · exact fun b => flatten_of_leaf rfl
  · exact fun entries => flatten_of_leaf rfl
  · exact flatten_nested rfl before after
  · exact flatten_nested rfl before after

example :
    let letters := [list [text "a", text "b"], list [text "c", tuple [text "d", text "e"]]]
    (list letters).flatten = [text "a", text "b", text "c", text "d", text "e"] := rfl

/-! ## Sameness -/

/-- Sameness keeps what is no collection apart from collections. -/
theorem same_eq_false_of_isCollection {x v : Value} (leaf : x.isCollection = false)
    (collection : v.isCollection = true) : same x v = false := by
  cases v with
  | list | tuple | set | keys | range =>
    cases x <;> simp [isCollection] at leaf <;> simp [same, sameAtom, quantity?]
  | _ => simp [isCollection] at collection

theorem memberOf_flatten_of_isCollection {v : Value} (collection : v.isCollection = true)
    (c : Value) : v.memberOf c.flatten = false := by
  rw [memberOf, List.any_eq_false]
  intro x member
  have leaf := isCollection_of_mem_flatten c x member
  simp [same_eq_false_of_isCollection leaf collection]

end Value

end RecordRules
