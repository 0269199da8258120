import Mathlib
import RecordRules.Proofs.Rule.Checks
import RecordRules.Proofs.Value.Lookup

/-!
# The verdict of a must-be rule

The checks of a rule are tried in order, yet its verdict is a disjunction without an order: a rule
that runs to its end passes just when one of several facts holds (`Passes`), each of which stands by
itself. So the order of its options is of no consequence for the verdict, nor is that of its
conditions if none of them changes a value that another one sees (`verdict_turns_on_condition_order`
is a rule on which it is).
-/

namespace RecordRules

/-! ## Options in another order -/

namespace Entries

/-- No two keys are the same. -/
def Distinct (entries : Entries) : Prop := entries.Pairwise fun a b => Value.same a.1 b.1 = false

/-- One option with one value, or with the same conditions in another order. -/
def SameOption (a b : Value × Value) : Prop :=
  a.1 = b.1 ∧ (a.2 = b.2 ∨
    a.1 = .text "when" ∧ ∃ xs ys, a.2 = .dict xs ∧ b.2 = .dict ys ∧ xs.Perm ys)

/-- The same options in another order, with the conditions among them in another order. -/
structure Reordered (options others : Entries) : Prop where
  distinct : options.Distinct
  same : ∃ middle, options.Perm middle ∧ List.Forall₂ SameOption middle others

theorem mem_of_get? {entries : Entries} {name : String} {v : Value}
    (found : entries.get? (.text name) = some v) : (.text name, v) ∈ entries := by
  unfold get? at found
  obtain ⟨⟨key, w⟩, first, rfl⟩ := Option.map_eq_some_iff.mp found
  have isName : Value.same key (.text name) = true := by simpa using List.find?_some first
  obtain rfl := (Value.same_right_text_iff key name).mp isName
  exact List.mem_of_find?_eq_some first

theorem get?_of_mem {entries : Entries} {name : String} {v : Value}
    (member : (.text name, v) ∈ entries) : ∃ w, entries.get? (.text name) = some w := by
  rw [← Option.isSome_iff_exists, get?, Option.isSome_map, List.find?_isSome]
  exact ⟨_, member, Value.same_text_self name⟩

theorem Distinct.unique {entries : Entries} (distinct : entries.Distinct) {name : String}
    {v w : Value} (first : (.text name, v) ∈ entries) (second : (.text name, w) ∈ entries) :
    v = w := by
  induction entries with
  | nil => cases first
  | cons entry rest ih =>
    obtain ⟨apart, others⟩ := List.pairwise_cons.mp distinct
    have clash : ∀ u, entry = (.text name, u) → ∀ x, (.text name, x) ∉ rest := by
      rintro u rfl x member
      have differs := apart _ member
      rw [Value.same_text_self] at differs
      cases differs
    rcases List.mem_cons.mp first with rfl | inRest
    · rcases List.mem_cons.mp second with same | member
      · exact (Prod.mk.inj same).2.symm
      · exact absurd member (clash v rfl w)
    · rcases List.mem_cons.mp second with rfl | member
      · exact absurd inRest (clash w rfl v)
      · exact ih others inRest member

namespace Reordered

variable {options others : Entries}

theorem mem_right (reordered : Reordered options others) {a : Value × Value}
    (member : a ∈ options) : ∃ b ∈ others, SameOption a b := by
  obtain ⟨middle, perm, same⟩ := reordered.same
  exact exists_of_mem_left same a (perm.mem_iff.mp member)

theorem mem_left (reordered : Reordered options others) {b : Value × Value}
    (member : b ∈ others) : ∃ a ∈ options, SameOption a b := by
  obtain ⟨middle, perm, same⟩ := reordered.same
  obtain ⟨a, inMiddle, sameOption⟩ := exists_of_mem_left same.flip b member
  exact ⟨a, perm.mem_iff.mpr inMiddle, sameOption⟩

/-- An option is looked up alike in both orders. -/
theorem sameOption_option (reordered : Reordered options others) (name : String) :
    SameOption (.text name, options.option name) (.text name, others.option name) := by
  unfold option
  cases found : options.get? (.text name) with
  | none =>
    cases foundOther : others.get? (.text name) with
    | none => exact ⟨rfl, .inl rfl⟩
    | some w =>
      obtain ⟨⟨key, v⟩, member, sameKey, _⟩ := reordered.mem_left (mem_of_get? foundOther)
      obtain rfl : key = .text name := sameKey
      obtain ⟨u, there⟩ := get?_of_mem member
      rw [found] at there
      cases there
  | some v =>
    obtain ⟨⟨key, w⟩, member, sameKey, _⟩ := reordered.mem_right (mem_of_get? found)
    obtain rfl : .text name = key := sameKey
    obtain ⟨w', foundOther⟩ := get?_of_mem member
    -- What is found first in the other order need not be what was there; but no key occurs twice.
    obtain ⟨⟨key, v'⟩, memberBack, sameBack⟩ := reordered.mem_left (mem_of_get? foundOther)
    obtain rfl : key = .text name := sameBack.1
    obtain rfl := reordered.distinct.unique (mem_of_get? found) memberBack
    rw [foundOther]
    exact sameBack

end Reordered

/-- What a rule looks for in its options is found in others too, with conditions of which the same
    is true. -/
structure Offers (unmet : Entries → Prop) (options others : Entries) : Prop where
  option : ∀ name, name ≠ "when" → others.option name = options.option name
  operand : ∀ (c : Comparator) (operand : Value),
    (.text c.name, operand) ∈ options → (.text c.name, operand) ∈ others
  condition : ∀ conditions, options.option "when" = .dict conditions → unmet conditions →
    ∃ found, others.option "when" = .dict found ∧ unmet found

theorem SameOption.eq_of_comparator {c : Comparator} {v : Value} {b : Value × Value}
    (same : SameOption (.text c.name, v) b) : b = (.text c.name, v) := by
  obtain ⟨key, w⟩ := b
  obtain ⟨rfl, rfl | ⟨isWhen, _⟩⟩ := same
  · rfl
  · exact absurd (Value.text.inj isWhen) (by cases c <;> decide)

theorem SameOption.symm {a b : Value × Value} (same : SameOption a b) : SameOption b a := by
  obtain ⟨keys, values | ⟨isWhen, xs, ys, first, second, perm⟩⟩ := same
  · exact ⟨keys.symm, .inl values.symm⟩
  · exact ⟨keys.symm, .inr ⟨keys ▸ isWhen, ys, xs, second, first, perm.symm⟩⟩

/-- Conditions are the same in both orders, or not in the same order. -/
theorem SameOption.exists_conditions {key v w : Value} {conditions : Entries}
    (same : SameOption (key, v) (key, w)) (given : v = .dict conditions) :
    ∃ found, w = .dict found ∧ conditions.Perm found := by
  obtain ⟨_, rfl | ⟨_, xs, ys, first, second, perm⟩⟩ := same
  · exact ⟨conditions, given, .refl _⟩
  · obtain rfl := Value.dict.inj (given.symm.trans first)
    exact ⟨ys, second, perm⟩

/-- Options of which each is found in others, if their conditions come in the same order or it does
    not matter in which. -/
theorem offers_of_same {unmet : Entries → Prop} {options others : Entries}
    (found : ∀ name,
      SameOption (.text name, options.option name) (.text name, others.option name))
    (each : ∀ a ∈ options, ∃ b ∈ others, SameOption a b)
    (orders : (∀ xs ys : Entries, xs.Perm ys → unmet xs → unmet ys) ∨
      others.option "when" = options.option "when") : Offers unmet options others where
  option name other := by
    rcases found name with ⟨_, same | ⟨isWhen, _⟩⟩
    · exact same.symm
    · exact absurd (Value.text.inj isWhen) other
  operand c operand member := by
    obtain ⟨b, there, same⟩ := each _ member
    exact same.eq_of_comparator ▸ there
  condition conditions given holds := by
    rcases orders with orders | same
    · obtain ⟨others, isOthers, perm⟩ := (found "when").exists_conditions given
      exact ⟨others, isOthers, orders _ _ perm holds⟩
    · exact ⟨conditions, same.trans given, holds⟩

/-- Options offer the same in either order. -/
theorem Reordered.offers {unmet : Entries → Prop} {options others : Entries}
    (reordered : Reordered options others)
    (orders : (∀ xs ys : Entries, xs.Perm ys → unmet xs → unmet ys) ∨
      others.option "when" = options.option "when") :
    Offers unmet options others ∧ Offers unmet others options := by
  refine ⟨offers_of_same reordered.sameOption_option (fun a => reordered.mem_right) orders,
    offers_of_same (fun name => (reordered.sameOption_option name).symm) (fun b member => ?_)
      (orders.imp_right Eq.symm)⟩
  obtain ⟨a, there, same⟩ := reordered.mem_left member
  exact ⟨a, there, same.symm⟩

end Entries

/-! ## The verdict -/

theorem Comparator.ofKey?_iff {key : Value} {c : Comparator} :
    Comparator.ofKey? key = some c ↔ key = .text c.name := by
  cases key with
  | text s =>
    unfold ofKey?
    constructor
    · intro found
      have isName : (c.name == s) = true := by simpa using List.find?_some found
      rw [eq_of_beq isName]
    · rintro same
      obtain rfl := Value.text.inj same
      cases c <;> rfl
  | _ => simp [ofKey?]

theorem Registry.truthy_of_isDisabled {registry : Registry} {name : Value}
    (off : registry.isDisabled name = .ok true) : name.truthy = true := by
  unfold isDisabled at off
  split at off
  next filled => exact filled
  · cases off

/-- One of some conditions does not hold of a record, whatever the others are. -/
def Condition.AnyUnmet (subject : Subject) (conditions : Entries) : Prop :=
  ∃ condition ∈ conditions, Unmet subject condition

theorem Condition.AnyUnmet.perm {subject : Subject} {conditions others : Entries}
    (perm : conditions.Perm others) (unmet : AnyUnmet subject conditions) :
    AnyUnmet subject others := by
  obtain ⟨condition, member, fails⟩ := unmet
  exact ⟨condition, perm.mem_iff.mp member, fails⟩

namespace MustBe

variable {context : Context} {rule : Rule} {subject : Subject} {value : Value}
variable {unmet : Entries → Prop}

/-- The facts that let a must-be rule pass, each by itself; `unmet` says of conditions that one of
    them does not hold. -/
inductive Passes (context : Context) (rule : Rule) (subject : Subject) (value : Value)
    (unmet : Entries → Prop) : Prop where
  | disabled (named : rule.name.truthy = true)
      (off : context.registry.isDisabled rule.name = .ok true)
  | blank (asked : (rule.options.option "blank").truthy = true) (blank : value.isBlank = true)
  | present (asked : (rule.options.option "present").truthy = true)
      (present : value.isPresent = true)
  | oneOf (given : rule.options.option "one_of" ≠ .null)
      (among : value.memberOf (rule.options.option "one_of").flatten = true)
  | notAnyOf (given : rule.options.option "not_any_of" ≠ .null)
      (apart : value.memberOf (rule.options.option "not_any_of").flatten = false)
  | onlyFrom (given : rule.options.option "only_from" ≠ .null)
      (among : ∀ v ∈ value.asSequence,
        v.memberOf (rule.options.option "only_from").flatten = true)
  | bound (d : Direction) (asReceived : Value) (given : rule.options.option d.text ≠ .null)
      (received : subject.received rule.field = .ok asReceived)
      (accepted : Bound.evaluate subject context.clock value asReceived
        (rule.options.option d.text) d (rule.options.option "time").truthy = .ok none)
  | comparison (c : Comparator) (operand resolved : Value)
      (asked : (.text c.name, operand) ∈ rule.options)
      (standsFor : subject.resolve operand = .ok resolved)
      (met : resolved = .null ∨ (value ≠ .null ∧ c.holds value resolved = .ok true) ∨
        (c = .notEqualTo ∧ value.equals resolved = false))
  | conditions (conditions : Entries)
      (given : rule.options.option "when" = .dict conditions) (unmet : unmet conditions)

theorem mem_ifGiven_iff {options : Entries} {name : String} {make : Value → Check} {check : Check} :
    check ∈ ifGiven options name make ↔
      options.option name ≠ .null ∧ check = make (options.option name) := by
  unfold ifGiven
  cases options.option name <;> simp

theorem mem_givenBounds_iff {options : Entries} {d : Direction} {bound : Value} :
    (d, bound) ∈ givenBounds options ↔
      options.option d.text ≠ .null ∧ bound = options.option d.text := by
  unfold givenBounds
  rw [List.mem_filterMap]
  constructor
  · rintro ⟨side, _, given⟩
    split at given
    · cases given
    next there =>
      obtain ⟨rfl, rfl⟩ := Prod.mk.inj (Option.some.inj given)
      exact ⟨there, rfl⟩
  · rintro ⟨there, rfl⟩
    refine ⟨d, by cases d <;> simp, ?_⟩
    split
    next isNull => exact absurd isNull there
    · rfl

theorem mem_comparisons_iff {options : Entries} {check : Check} :
    check ∈ comparisons options ↔
      ∃ (c : Comparator) (operand : Value),
        (.text c.name, operand) ∈ options ∧ check = .comparison c operand := by
  unfold comparisons
  rw [List.mem_filterMap]
  constructor
  · rintro ⟨⟨key, operand⟩, member, made⟩
    obtain ⟨c, asks, rfl⟩ := Option.map_eq_some_iff.mp made
    obtain rfl := Comparator.ofKey?_iff.mp asks
    exact ⟨c, operand, member, rfl⟩
  · rintro ⟨c, operand, member, rfl⟩
    exact ⟨_, member, by simp [Comparator.ofKey?_iff.mpr rfl]⟩

/-- The checks of a rule that are met are the facts that let it pass. -/
theorem passes_iff_met :
    Passes context rule subject value (Condition.SomeUnmet subject) ↔
      context.registry.isDisabled rule.name = .ok true ∨
      ∃ check ∈ checks rule.options, check.Met (sceneOf context rule subject value) := by
  simp only [checks, List.mem_append, mem_ifGiven_iff, mem_comparisons_iff]
  constructor
  · intro passes
    cases passes with
    | disabled named off => exact .inl off
    | blank asked blank => exact .inr ⟨.blank, by simp [asked], blank⟩
    | present asked present => exact .inr ⟨.present, by simp [asked], present⟩
    | oneOf given among => exact .inr ⟨.oneOf _, by simp [given], among⟩
    | notAnyOf given apart => exact .inr ⟨.notAnyOf _, by simp [given], apart⟩
    | onlyFrom given among => exact .inr ⟨.onlyFrom _, by simp [given], among⟩
    | bound d asReceived given received accepted =>
      exact .inr ⟨.window _ _, by simp, asReceived, received, (d, rule.options.option d.text),
        mem_givenBounds_iff.mpr ⟨given, rfl⟩, accepted⟩
    | comparison c operand resolved asked standsFor met =>
      exact .inr ⟨.comparison c operand, by simp [asked], resolved, standsFor, met⟩
    | conditions conditions given unmet =>
      exact .inr ⟨.conditions (.dict conditions), by simp [given], unmet⟩
  · rintro (off | ⟨check, member, met⟩)
    · exact .disabled (Registry.truthy_of_isDisabled off) off
    · -- Where a check stands in the list tells which option asked for it.
      rcases member with ((((((blank | present) | ⟨given, rfl⟩) | ⟨given, rfl⟩) | ⟨given, rfl⟩) |
        window) | ⟨c, operand, asked, rfl⟩) | ⟨given, rfl⟩
      · split at blank
        next asked =>
          obtain rfl := List.mem_singleton.mp blank
          exact .blank asked met
        · cases blank
      · split at present
        next asked =>
          obtain rfl := List.mem_singleton.mp present
          exact .present asked met
        · cases present
      · exact .oneOf given met
      · exact .notAnyOf given met
      · exact .onlyFrom given met
      · obtain rfl := List.mem_singleton.mp window
        obtain ⟨asReceived, received, ⟨d, bound⟩, bounds, accepted⟩ := met
        obtain ⟨given, rfl⟩ := mem_givenBounds_iff.mp bounds
        exact .bound d asReceived given received accepted
      · obtain ⟨resolved, standsFor, met⟩ := met
        exact .comparison c operand resolved asked standsFor met
      · cases isDict : rule.options.option "when" with
        | dict conditions =>
          rw [isDict] at met
          exact .conditions conditions isDict met
        | _ => simp [isDict, Check.Met] at met

theorem Passes.offered {others : Entries} (passes : Passes context rule subject value unmet)
    (offers : rule.options.Offers unmet others) :
    Passes context { rule with options := others } subject value unmet := by
  have keeps := offers.option
  have sameName : ({ rule with options := others } : Rule).name = rule.name :=
    keeps "rule_name" (by decide)
  cases passes with
  | disabled named off => exact .disabled (sameName ▸ named) (sameName ▸ off)
  | blank asked blank => exact .blank (by rwa [keeps "blank" (by decide)]) blank
  | present asked present => exact .present (by rwa [keeps "present" (by decide)]) present
  | oneOf given among =>
    have same := keeps "one_of" (by decide)
    exact .oneOf (by rwa [same]) (by rwa [same])
  | notAnyOf given apart =>
    have same := keeps "not_any_of" (by decide)
    exact .notAnyOf (by rwa [same]) (by rwa [same])
  | onlyFrom given among =>
    have same := keeps "only_from" (by decide)
    exact .onlyFrom (by rwa [same]) (by rwa [same])
  | bound d asReceived given received accepted =>
    have same := keeps d.text (by cases d <;> decide)
    exact .bound d asReceived (by rwa [same]) received
      (by rwa [same, keeps "time" (by decide)])
  | comparison c operand resolved asked standsFor met =>
    exact .comparison c operand resolved (offers.operand c operand asked) standsFor met
  | conditions conditions given unmet =>
    obtain ⟨found, givenFound, unmetFound⟩ := offers.condition conditions given unmet
    exact .conditions found givenFound unmetFound

theorem Passes.imp {others : Entries → Prop} (passes : Passes context rule subject value unmet)
    (weaker : ∀ conditions, rule.options.option "when" = .dict conditions →
      unmet conditions → others conditions) : Passes context rule subject value others := by
  cases passes with
  | disabled named off => exact .disabled named off
  | blank asked blank => exact .blank asked blank
  | present asked present => exact .present asked present
  | oneOf given among => exact .oneOf given among
  | notAnyOf given apart => exact .notAnyOf given apart
  | onlyFrom given among => exact .onlyFrom given among
  | bound d asReceived given received accepted => exact .bound d asReceived given received accepted
  | comparison c operand resolved asked standsFor met =>
    exact .comparison c operand resolved asked standsFor met
  | conditions conditions given unmet => exact .conditions conditions given (weaker _ given unmet)

theorem passes_iff_of_reordered {others : Entries} (reordered : rule.options.Reordered others)
    (orders : (∀ xs ys : Entries, xs.Perm ys → unmet xs → unmet ys) ∨
      others.option "when" = rule.options.option "when") :
    Passes context { rule with options := others } subject value unmet ↔
      Passes context rule subject value unmet :=
  ⟨fun passes => passes.offered (reordered.offers orders).2,
    fun passes => passes.offered (reordered.offers orders).1⟩

theorem gentle_of_reordered {others : Entries} (gentle : rule.Gentle)
    (reordered : rule.options.Reordered others) : Rule.Gentle { rule with options := others } := by
  intro conditions name question given asked
  obtain ⟨found, isFound, perm⟩ :=
    (reordered.sameOption_option "when").symm.exists_conditions given
  exact gentle found name question isFound (perm.mem_iff.mp asked)

/-- Where no condition changes a value, it is of no consequence what the others have left. -/
theorem passes_iff_of_gentle (gentle : rule.Gentle) :
    Passes context rule subject value (Condition.SomeUnmet subject) ↔
      Passes context rule subject value (Condition.AnyUnmet subject) := by
  have same : ∀ conditions, rule.options.option "when" = .dict conditions →
      (Condition.SomeUnmet subject conditions ↔ Condition.AnyUnmet subject conditions) :=
    fun _ given => Condition.someUnmet_iff_of_left (gentle.left_eq given)
  exact ⟨fun passes => passes.imp fun _ given => (same _ given).mp,
    fun passes => passes.imp fun _ given => (same _ given).mpr⟩

/-- A must-be rule that comes to a verdict passes just when one of the facts that let it pass holds,
    where each condition is held against what those before it have left; for a gentle rule, against
    the record. It comes to no other verdict with its options in another order, nor with its
    conditions in another order if it is gentle. -/
theorem verdict_is_disjunction {verdict : Bool}
    (returned : (run context rule subject value).outcome = .ok verdict) :
    (verdict = true ↔ Passes context rule subject value (Condition.SomeUnmet subject)) ∧
      (rule.Gentle →
        (verdict = true ↔ Passes context rule subject value (Condition.AnyUnmet subject))) ∧
      ∀ others, rule.options.Reordered others →
        (rule.Gentle ∨ others.option "when" = rule.options.option "when") → ∀ again,
          (run context { rule with options := others } subject value).outcome = .ok again →
            again = verdict := by
  have passes : verdict = true ↔
      Passes context rule subject value (Condition.SomeUnmet subject) :=
    (verdict_iff_met returned).trans passes_iff_met.symm
  refine ⟨passes, fun gentle => passes.trans (passes_iff_of_gentle gentle), ?_⟩
  intro others reordered orders again returnedAgain
  have passesAgain := (verdict_iff_met returnedAgain).trans passes_iff_met.symm
  suffices same : Passes context { rule with options := others } subject value
      (Condition.SomeUnmet subject) ↔
        Passes context rule subject value (Condition.SomeUnmet subject) from
    Bool.eq_iff_iff.mpr (passesAgain.trans (same.trans passes.symm))
  rcases orders with gentle | sameConditions
  · have gentleAgain := gentle_of_reordered gentle reordered
    rw [passes_iff_of_gentle gentle, passes_iff_of_gentle gentleAgain]
    exact passes_iff_of_reordered reordered (.inl fun _ _ => Condition.AnyUnmet.perm)
  · exact passes_iff_of_reordered reordered (.inr sameConditions)

/-- A rule on the grades after the first, where they are in capitals and there is no note. -/
def gradeRule : Rule where
  field := .text "grade"
  options :=
    [(.text "greater_than", .text "A"),
      (.text "when",
        .dict [(.text "note", .sentinel .blank), (.text "grade", .method (.text "isupper"))])]

theorem gradeRule_verdict :
    let context : Context := ⟨.empty, ⟨⟨2024, 5, 1, by decide⟩, 0, none, by decide⟩⟩
    let subject : Subject := ⟨"A-1", none, none, [("grade", .text "B")], none⟩
    let others : Entries :=
      [(.text "when",
          .dict [(.text "grade", .method (.text "isupper")), (.text "note", .sentinel .blank)]),
        (.text "greater_than", .text "A")]
    Passes context gradeRule subject (.text "B") (Condition.AnyUnmet subject) ∧
      ∀ again, (run context { gradeRule with options := others } subject (.text "B")).outcome
        = .ok again → again = true := by
  intro context subject others
  have returned : (run context gradeRule subject (.text "B")).outcome = .ok true := by cbv
  have distinct : gradeRule.options.Distinct := by
    simp [Entries.Distinct, gradeRule, Value.same_texts]
  have reordered : gradeRule.options.Reordered others := by
    refine ⟨distinct, _, List.Perm.swap _ _ [], .cons ⟨rfl, .inr ⟨rfl, _, _, rfl, rfl, ?_⟩⟩
      (.cons ⟨rfl, .inl rfl⟩ .nil)⟩
    exact List.Perm.swap _ _ []
  have gentle : gradeRule.Gentle := by
    refine Rule.gentle_of_names fun conditions name question given asked => ?_
    have isGiven : gradeRule.options.option "when" = .dict
        [(.text "note", .sentinel .blank), (.text "grade", .method (.text "isupper"))] := by cbv
    obtain rfl := Value.dict.inj (isGiven.symm.trans given)
    obtain ⟨_, rfl⟩ : name = .text "grade" ∧ question = .text "isupper" := by simpa using asked
    exact ⟨"isupper", rfl, by decide, by decide⟩
  obtain ⟨_, passes, same⟩ := verdict_is_disjunction returned
  exact ⟨(passes gentle).mp rfl, same others reordered (.inl gentle)⟩

/-- A rule that wants a value where some conditions hold. -/
def wantedWhen (conditions : Entries) : Rule where
  field := .text "start"
  options := [(.text "present", .bool true), (.text "when", .dict conditions)]

theorem option_wantedWhen {conditions : Entries} {name : String} (other : "present" ≠ name)
    (noWhen : "when" ≠ name) : (wantedWhen conditions).options.option name = .null := by
  rw [wantedWhen, Entries.option, Entries.get?_cons_text, if_neg other, Entries.get?_cons_text,
    if_neg noWhen]
  rfl

theorem verdict_turns_on_condition_order :
    let context : Context := ⟨.empty, ⟨⟨2024, 5, 1, by decide⟩, 0, none, by decide⟩⟩
    let names : Value := .list [.text "a", .text "b"]
    let subject : Subject := ⟨"A-1", none, none, [("tags", names), ("names", names)], none⟩
    let last : Value × Value := (.text "tags", .method (.text "pop"))
    let same : Value × Value := (.text "names", .field (.text "tags"))
    (run context (wantedWhen [last, same]) subject .null).outcome = .ok true ∧
      ¬Passes context (wantedWhen [last, same]) subject .null (Condition.AnyUnmet subject) ∧
      (run context (wantedWhen [same, last]) subject .null).outcome = .ok false := by
  intro context names subject last same
  have given : (wantedWhen [last, same]).options.option "when" = .dict [last, same] := by cbv
  have readTags : subject.read (.text "tags") = .ok names := rfl
  have readNames : subject.read (.text "names") = .ok names := rfl
  have lastHolds : Condition.holds subject (.method (.text "pop")) names = .ok true := by cbv
  have sameHolds : Condition.holds subject (.field (.text "tags")) names = .ok true := by cbv
  refine ⟨by cbv, fun passes => ?_, by cbv⟩
  cases passes with
  | disabled named off =>
    rw [Rule.name, option_wantedWhen (by decide) (by decide)] at named
    cases named
  | blank asked blank =>
    rw [option_wantedWhen (by decide) (by decide)] at asked
    cases asked
  | present asked present => cases present
  | oneOf given among => exact given (option_wantedWhen (by decide) (by decide))
  | notAnyOf given apart => exact given (option_wantedWhen (by decide) (by decide))
  | onlyFrom given among => exact given (option_wantedWhen (by decide) (by decide))
  | bound d asReceived given received accepted =>
    cases d <;> exact given (option_wantedWhen (by decide) (by decide))
  | comparison c operand resolved asked standsFor met =>
    cases c <;> simp [wantedWhen, Comparator.name] at asked
  | conditions conditions isGiven unmet =>
    obtain rfl := Value.dict.inj (given.symm.trans isGiven)
    obtain ⟨condition, member, current, read, fails⟩ := unmet
    rcases List.mem_pair.mp member with rfl | rfl
    · obtain rfl := Except.ok.inj (readTags.symm.trans read)
      cases Except.ok.inj (lastHolds.symm.trans fails)
    · obtain rfl := Except.ok.inj (readNames.symm.trans read)
      cases Except.ok.inj (sameHolds.symm.trans fails)

end MustBe

end RecordRules
