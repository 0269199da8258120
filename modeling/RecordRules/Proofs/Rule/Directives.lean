import RecordRules.Proofs.Rule.Verdict

/-!
# Directives among options

An option that is given asks for its check, and a rule with a directive asks for something
(`any_isDirective_of_given`). Where the directives among the options have no names but a few, no
other directive is given (`option_eq_null`). So the rule makes none of the checks, and lists none of
the values, that another directive would ask for.
-/

namespace RecordRules

namespace MustBe

variable {options : Entries}

/-! ## Options that are given -/

theorem ifGiven_of_given {name : String} (given : options.option name ≠ .null)
    (check : Value → Check) : ifGiven options name check = [check (options.option name)] := by
  unfold ifGiven
  split
  next absent => exact absurd absent given
  next => rfl

/-- Options in which a directive is given ask for something. -/
theorem any_isDirective_of_given (name : String) (directive : isDirective (.text name) = true)
    (given : options.option name ≠ .null) :
    (options.any fun (key, _) => isDirective key) = true := by
  cases found : options.get? (.text name) with
  | none =>
    rw [Entries.option, found] at given
    exact absurd rfl given
  | some v => exact List.any_eq_true.mpr ⟨_, Entries.mem_of_get? found, directive⟩

/-! ## Options that are not -/

/-- That every directive among options has one of some names. -/
def DirectivesIn (options : Entries) (names : List String) : Prop :=
  ∀ entry ∈ options, isDirective entry.1 = true → ∃ name ∈ names, entry.1 = .text name

namespace DirectivesIn

variable {names : List String}

theorem option_eq_null (only : DirectivesIn options names) (name : String)
    (directive : isDirective (.text name) = true) (apart : name ∉ names) :
    options.option name = .null := by
  refine Entries.option_of_absent fun entry member isName => apart ?_
  rw [← isName] at directive
  obtain ⟨other, known, isOther⟩ := only entry member directive
  rwa [Value.text.inj (isName.symm.trans isOther)]

theorem ifGiven_eq_nil (only : DirectivesIn options names) (name : String) (check : Value → Check)
    (directive : isDirective (.text name) = true) (apart : name ∉ names) :
    ifGiven options name check = [] := by
  rw [ifGiven, only.option_eq_null name directive apart]

theorem comparisons_eq_nil (only : DirectivesIn options names)
    (apart : ∀ c : Comparator, c.name ∉ names) : comparisons options = [] := by
  rw [List.eq_nil_iff_forall_not_mem]
  intro check member
  obtain ⟨c, operand, asked, _⟩ := mem_comparisons_iff.mp member
  have directive : isDirective (.text c.name) = true := by cases c <;> decide
  obtain ⟨name, known, isName⟩ := only _ asked directive
  exact apart c (Value.text.inj isName ▸ known)

theorem givenBounds_eq_nil (only : DirectivesIn options names)
    (apart : ∀ d : Direction, d.text ∉ names) : givenBounds options = [] := by
  unfold givenBounds
  refine List.filterMap_eq_nil_iff.mpr fun d _ => ?_
  rw [only.option_eq_null d.text (by cases d <;> decide) (apart d)]

theorem listed_eq (only : DirectivesIn options names) (name words : String)
    (directive : isDirective (.text name) = true) (apart : name ∉ names) :
    listed options name words = .ok "" := by
  rw [listed, only.option_eq_null name directive apart]

/-- Without a membership there is nothing to list. -/
theorem valueLists_eq (only : DirectivesIn options names) (noOneOf : "one_of" ∉ names)
    (noOnlyFrom : "only_from" ∉ names) (noNotAnyOf : "not_any_of" ∉ names) :
    valueLists options = .ok "" := by
  unfold valueLists
  rw [only.listed_eq "one_of" _ (by decide) noOneOf,
    only.listed_eq "only_from" _ (by decide) noOnlyFrom,
    only.listed_eq "not_any_of" _ (by decide) noNotAnyOf]
  split <;> rfl

end DirectivesIn

end MustBe

end RecordRules
