import RecordRules.Proofs.Rule.Membership
import RecordRules.Proofs.Value.Leaves

/-!
# Values with members

The values of a membership are leaves, and a collection is among no leaves. So a value with members
never passes by being among some values, always passes by not being among them, and meets no
condition that lists values (`collection_matches_no_leaf`). This holds whatever the values are, also
if one of them is that very value.
-/

namespace RecordRules

/-- A collection is shown by its literal form, which is always there. -/
theorem Value.wellNamed_of_isCollection {v : Value} (collection : v.isCollection = true) :
    v.WellNamed := by
  cases v with
  | field | method => cases collection
  | _ => trivial

namespace MustBe

/-- A value that is not among the values leaves the sentence that it is not valid. -/
theorem run_oneOf_of_apart (scene : Scene) {c : Value} {shown : String}
    (apart : scene.value.memberOf c.flatten = false) (shows : Bound.shown scene.value = .ok shown) :
    ((Check.oneOf c).run scene).outcome
      = .ok (.unsatisfied [.replace (": '" ++ shown ++ "' is not a valid value")]) := by
  simp only [Check.run, apart, Bool.false_eq_true, reduceIte, notValid, shows]
  rfl

/-- The checks before that of the values that a value is not to be among. -/
def checksBeforeApart (options : Entries) : List Check :=
  (if (options.option "blank").truthy then [.blank] else [])
    ++ (if (options.option "present").truthy then [.present] else [])
    ++ ifGiven options "one_of" .oneOf

theorem exists_checks_apart {options : Entries} (given : options.option "not_any_of" ≠ .null) :
    ∃ rest, checks options
      = checksBeforeApart options ++ .notAnyOf (options.option "not_any_of") :: rest := by
  unfold checks checksBeforeApart
  rw [ifGiven_of_given given]
  simp only [List.append_assoc, List.cons_append, List.nil_append]
  exact ⟨_, rfl⟩

/-- What comes before that check stops no rule on a value that can be shown. -/
theorem exists_finding_before_apart (scene : Scene) (options : Entries)
    (wellNamed : scene.value.WellNamed) :
    ∀ check ∈ checksBeforeApart options, ∃ finding, (check.run scene).outcome = .ok finding := by
  intro check member
  unfold checksBeforeApart at member
  rcases List.mem_append.mp member with escapes | among
  · rcases List.mem_append.mp escapes with blank | present
    · split at blank
      · obtain rfl := List.mem_singleton.mp blank
        exact ⟨_, rfl⟩
      · cases blank
    · split at present
      · obtain rfl := List.mem_singleton.mp present
        exact ⟨_, rfl⟩
      · cases present
  · obtain ⟨_, rfl⟩ := mem_ifGiven_iff.mp among
    obtain ⟨shown, shows⟩ := Value.exists_shown wellNamed
    by_cases member : scene.value.memberOf (options.option "one_of").flatten = true
    · exact ⟨_, Membership.run_of_holds (m := .oneOf) scene member⟩
    · exact ⟨_, run_oneOf_of_apart scene (Bool.eq_false_iff.mpr member) shows⟩

/-- An enabled rule passes on a value that is not among those that it must not be among, if the
    value can be shown. -/
theorem passed_of_apart {context : Context} {rule : Rule} {subject : Subject} {v : Value}
    (on : context.registry.isDisabled rule.name = .ok false)
    (given : rule.options.option "not_any_of" ≠ .null) (wellNamed : v.WellNamed)
    (apart : v.memberOf (rule.options.option "not_any_of").flatten = false) :
    (run context rule subject v).outcome = .ok true := by
  obtain ⟨rest, order⟩ := exists_checks_apart given
  have satisfied := Membership.run_of_holds (m := .notAnyOf) (sceneOf context rule subject v) apart
  have before := exists_finding_before_apart (sceneOf context rule subject v) rule.options wellNamed
  refine passed_of_judged on (any_isDirective_of_given "not_any_of" (by decide) given) ?_
  unfold judge
  simp only [Membership.check] at satisfied
  rw [order, Trial.outcome_bind, runChecks_of_reached before satisfied]
  rfl

/-- A rule with an unmet condition does not fail. -/
theorem verdict_of_unmet {context : Context} {rule : Rule} {subject : Subject} {value : Value}
    {conditions : Entries} {verdict : Bool}
    (given : rule.options.option "when" = .dict conditions)
    (unmet : Condition.SomeUnmet subject conditions)
    (returned : (run context rule subject value).outcome = .ok verdict) : verdict = true := by
  refine (verdict_iff_met returned).mpr (.inr ⟨.conditions (.dict conditions), ?_, ?_⟩)
  · have isGiven : Check.conditions (.dict conditions)
        ∈ ifGiven rule.options "when" .conditions :=
      mem_ifGiven_iff.mpr ⟨by rw [given]; simp, by rw [given]⟩
    unfold checks
    exact List.mem_append_right _ isGiven
  · exact unmet

/-- What it means for a value to match none of the values of an option. -/
structure MatchesNone (context : Context) (subject : Subject) (v c : Value) : Prop where
  /-- To be among the values is not met, and a rule that passes has met another check. -/
  among : ∀ rule : Rule, rule.options.option "one_of" = c →
    (∃ sentence, ((Check.oneOf c).run (sceneOf context rule subject v)).outcome
      = .ok (.unsatisfied [.replace sentence])) ∧
    ((run context rule subject v).outcome = .ok true →
      context.registry.isDisabled rule.name = .ok true ∨
        ∃ check ∈ checks rule.options,
          check ≠ .oneOf c ∧ check.Met (sceneOf context rule subject v))
  /-- Not to be among them lets an enabled rule pass, and any rule that comes to a verdict. -/
  apart : ∀ rule : Rule, rule.options.option "not_any_of" = c →
    (context.registry.isDisabled rule.name = .ok false →
      (run context rule subject v).outcome = .ok true) ∧
    ∀ verdict, (run context rule subject v).outcome = .ok verdict → verdict = true
  /-- A collection as the condition on an attribute that has the value does not hold, so that a
      rule with that condition does not apply. -/
  condition : c.isCollection = true → Condition.holds subject c v = .ok false ∧
    ∀ (rule : Rule) (conditions : Entries) (name : Value),
      rule.options.option "when" = .dict conditions → (name, c) ∈ conditions →
        subject.read name = .ok v → ∀ value verdict,
          (run context rule subject value).outcome = .ok verdict → verdict = true

/-- A collection matches none of the values of an option, whichever these are and however they are
    nested: it is not among them, not even if the option has that very collection as a member. -/
theorem collection_matches_no_leaf (context : Context) (subject : Subject) {v c : Value}
    (collection : v.isCollection = true) (given : c ≠ .null) :
    MatchesNone context subject v c where
  among rule isOption := by
    have apart := Value.memberOf_flatten_of_isCollection collection c
    obtain ⟨shown, shows⟩ := Value.exists_shown (Value.wellNamed_of_isCollection collection)
    refine ⟨⟨_, run_oneOf_of_apart (sceneOf context rule subject v) apart shows⟩, ?_⟩
    intro passed
    rcases (verdict_iff_met passed).mp rfl with off | ⟨check, member, met⟩
    · exact .inl off
    · refine .inr ⟨check, member, ?_, met⟩
      rintro rfl
      exact Bool.false_ne_true (apart.symm.trans met)
  apart rule isOption := by
    have apart := Value.memberOf_flatten_of_isCollection collection c
    subst isOption
    have passes (on : context.registry.isDisabled rule.name = .ok false) :
        (run context rule subject v).outcome = .ok true :=
      passed_of_apart on given (Value.wellNamed_of_isCollection collection) apart
    refine ⟨passes, fun verdict returned => ?_⟩
    obtain ⟨rest, order⟩ := exists_checks_apart given
    have met : (Check.notAnyOf (rule.options.option "not_any_of")).Met
        (sceneOf context rule subject v) := apart
    refine (verdict_iff_met returned).mpr (.inr ⟨_, ?_, met⟩)
    rw [order]
    simp
  condition isList := by
    have fails (found : Subject) {w : Value} (collection : w.isCollection = true) :
        Condition.holds found c w = .ok false := by
      have apart := Value.memberOf_flatten_of_isCollection collection c
      cases c <;> simp [Value.isCollection] at isList <;>
        simp [Condition.holds, Value.isCollection, apart]
    refine ⟨fails subject collection, ?_⟩
    intro rule conditions name isWhen asked read value verdict returned
    -- The conditions before this one can change the collection, but a collection it stays.
    obtain ⟨held, later, rfl⟩ := List.append_of_mem asked
    obtain ⟨w, readThen, stays⟩ := Condition.exists_collection_reached read collection held
    exact verdict_of_unmet isWhen ⟨held, _, later, rfl, w, readThen, fails _ stays⟩ returned

/-- Tags, one of which is a set of tags. -/
def nestedTags : Value := .list [.text "A", .set [.text "B"]]

/-- Choices, the first of which are the tags as a whole. -/
def choices : Value := .tuple [nestedTags, .text "A"]

/-- A rule that asks for a grade where the tags are among the choices. -/
def gradeForTags : Rule where
  field := .text "grade"
  options := [(.text "present", .bool true), (.text "when", .dict [(.text "tags", choices)])]

/-- Tags are not among choices of which they are the first, so a grade is not asked for. -/
theorem nestedTags_match_no_choice :
    let context : Context := ⟨.empty, ⟨⟨2024, 6, 15, by decide⟩, 0, none, by decide⟩⟩
    let subject : Subject := ⟨"A-1", none, none, [("tags", nestedTags)], none⟩
    nestedTags.isCollection = true ∧ choices ≠ .null ∧
      (run context (gradeAsking .oneOf choices) subject nestedTags).outcome = .ok false ∧
      (run context (gradeAsking .notAnyOf choices) subject nestedTags).outcome = .ok true ∧
      Condition.holds subject choices nestedTags = .ok false ∧
      (run context gradeForTags subject .null).outcome = .ok true := by
  intro context subject
  have given : choices ≠ .null := by simp [choices]
  have returned : (run context gradeForTags subject .null).outcome = .ok true := by cbv
  have isOption : (gradeAsking .notAnyOf choices).options.option "not_any_of" = choices := by
    simp [gradeAsking, Entries.option, Entries.get?_cons_text, Membership.name]
  have on : context.registry.isDisabled (gradeAsking .notAnyOf choices).name = .ok false := by cbv
  have failed : (run context (gradeAsking .oneOf choices) subject nestedTags).outcome
      = .ok false := by cbv
  have matchesNone := collection_matches_no_leaf context subject (v := nestedTags) rfl given
  obtain ⟨passes, _⟩ := matchesNone.apart _ isOption
  obtain ⟨fails, _⟩ := matchesNone.condition rfl
  exact ⟨rfl, given, failed, passes on, fails, returned⟩

end MustBe

end RecordRules
