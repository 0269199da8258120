import RecordRules.Proofs.Rule.Collections
import RecordRules.Proofs.Value.Ranking

/-!
# Rules that compare

A rule may ask for comparisons and for nothing else (`Rule.Compares`); its checks are these, after a
check of bounds that it does not have. If it asks for one comparison, it passes just when that is
met (`Rule.ComparesOnce.passed_iff`). So the verdicts on two values follow from how these rank
(`MustBe.comparisons_cohere`).
-/

namespace RecordRules

/-- Whether an operand is taken as it is: it is no reference and computes nothing. -/
def Value.isLiteral : Value → Bool
  | field _ | computed _ _ => false
  | _ => true

theorem Subject.resolve_of_isLiteral {v : Value} (literal : v.isLiteral = true)
    (subject : Subject) : subject.resolve v = .ok v := by
  cases v with
  | field | computed => cases literal
  | _ => rfl

namespace Comparator

theorem isDirective_name (c : Comparator) : MustBe.isDirective (.text c.name) = true := by
  cases c <;> decide

/-- Where there is a value and something to compare it with, a comparison is met if it holds. -/
theorem met_iff_holds {c : Comparator} {value operand : Value} (present : value ≠ .null)
    (there : operand ≠ .null) : c.Met value operand ↔ c.holds value operand = .ok true := by
  constructor
  · intro met
    rcases met.resolve_left there with ⟨_, held⟩ | ⟨rfl, differs⟩
    · exact held
    · rw [holds, differs]
      rfl
  · intro held
    exact .inr (.inl ⟨present, held⟩)

theorem satisfied_of_absent (c : Comparator) (field : Value) {operand : Value}
    (there : operand ≠ .null) : (c.satisfied field .null operand).outcome
      = .ok (c = .notEqualTo && !(Value.equals .null operand)) := by
  unfold satisfied
  split
  · exact absurd rfl there
  · rfl
  · contradiction

theorem satisfied_of_present (c : Comparator) (field : Value) {value operand : Value}
    (there : operand ≠ .null) (present : value ≠ .null) :
    (c.satisfied field value operand).outcome
      = (c.attempt field value operand).outcome >>= fun held =>
          .ok (held || (c = .notEqualTo && !(value.equals operand))) := by
  unfold satisfied
  split
  · exact absurd rfl there
  · exact absurd rfl present
  · rw [Trial.outcome_bind]
    refine congrArg _ (funext fun held => ?_)
    cases held <;> rfl

/-- A comparison that is met is satisfied: nothing stops before it is. -/
theorem satisfied_of_met {c : Comparator} {value operand : Value} (met : c.Met value operand)
    (field : Value) : (c.satisfied field value operand).outcome = .ok true := by
  by_cases nothing : operand = .null
  · rw [nothing]
    rfl
  by_cases absent : value = .null
  · obtain ⟨rfl, differs⟩ := (met.resolve_left nothing).resolve_left fun held => held.1 absent
    rw [absent] at differs ⊢
    rw [satisfied_of_absent _ _ nothing, differs]
    rfl
  have held := (met_iff_holds absent nothing).mp met
  rw [satisfied_of_present c field nothing absent, attempt, held]
  rfl

end Comparator

namespace MustBe

variable {scene : Scene} {c : Comparator} {operand resolved : Value}

theorem outcome_comparison (resolves : scene.subject.resolve operand = .ok resolved) :
    ((Check.comparison c operand).run scene).outcome
      = (c.satisfied scene.field scene.value resolved).outcome >>= fun held =>
          if held then .ok .satisfied
          else c.clause operand resolved >>= fun text => .ok (.unsatisfied [.append text]) := by
  simp only [Check.run]
  rw [Trial.outcome_bind, Trial.outcome_lift, resolves]
  show (_ >>= _ : Trial Finding).outcome = _
  rw [Trial.outcome_bind]
  refine congrArg _ (funext fun held => ?_)
  cases held with
  | true => rfl
  | false =>
    simp only [Bool.false_eq_true, reduceIte, Trial.outcome_bind, Trial.outcome_lift]
    rfl

theorem run_of_met (resolves : scene.subject.resolve operand = .ok resolved)
    (met : c.Met scene.value resolved) :
    ((Check.comparison c operand).run scene).outcome = .ok .satisfied := by
  rw [outcome_comparison resolves, Comparator.satisfied_of_met met]
  rfl

end MustBe

namespace Rule

open MustBe (Check)

/-- An enabled rule on an attribute that asks for comparisons and for nothing else, under no
    condition. -/
structure Compares (rule : Rule) (context : Context) : Prop where
  on : context.registry.isDisabled rule.name = .ok false
  field : ∃ name, rule.field = .text name
  only : ∀ entry ∈ rule.options, MustBe.isDirective entry.1 = true →
    ∃ c : Comparator, entry.1 = .text c.name
  directed : (rule.options.any fun (key, _) => MustBe.isDirective key) = true
  always : rule.options.option "when" = .null

/-- A rule that asks for one comparison. -/
structure ComparesOnce (rule : Rule) (context : Context) (c : Comparator) (operand : Value) : Prop
    extends rule.Compares context where
  once : MustBe.comparisons rule.options = [.comparison c operand]

namespace Compares

variable {rule : Rule} {context : Context} {subject : Subject} {v : Value}

theorem directivesIn (compares : rule.Compares context) :
    MustBe.DirectivesIn rule.options (Comparator.all.map Comparator.name) := by
  intro entry member directive
  obtain ⟨c, isComparison⟩ := compares.only entry member directive
  exact ⟨c.name, List.mem_map_of_mem (by cases c <;> decide), isComparison⟩

/-- Its checks are one of bounds, of which there are none, and its comparisons. -/
theorem checks_eq (compares : rule.Compares context) : MustBe.checks rule.options =
    .window [] (rule.options.option "time").truthy :: MustBe.comparisons rule.options := by
  have directives := compares.directivesIn
  unfold MustBe.checks
  rw [directives.option_eq_null "blank" (by decide) (by decide),
    directives.option_eq_null "present" (by decide) (by decide),
    directives.ifGiven_eq_nil "one_of" _ (by decide) (by decide),
    directives.ifGiven_eq_nil "not_any_of" _ (by decide) (by decide),
    directives.ifGiven_eq_nil "only_from" _ (by decide) (by decide),
    directives.givenBounds_eq_nil (fun d => by cases d <;> decide), MustBe.ifGiven, compares.always]
  simp [Value.truthy]

/-- A rule passes whose first comparison is satisfied. -/
theorem passed_of_first (compares : rule.Compares context) {check : Check} {rest : List Check}
    (order : MustBe.comparisons rule.options = check :: rest)
    (satisfied :
      (check.run (MustBe.sceneOf context rule subject v)).outcome = .ok .satisfied) :
    (MustBe.run context rule subject v).outcome = .ok true := by
  refine MustBe.passed_of_judged compares.on compares.directed ?_
  unfold MustBe.judge
  rw [compares.checks_eq, order, Trial.outcome_bind,
    MustBe.runChecks_of_unsatisfied (MustBe.run_window_nil compares.field _),
    MustBe.runChecks_of_satisfied satisfied]
  rfl

/-- A rule that comes to a verdict passes just when one of its comparisons is met. -/
theorem verdict_iff (compares : rule.Compares context) {verdict : Bool}
    (returned : (MustBe.run context rule subject v).outcome = .ok verdict) :
    verdict = true ↔ ∃ check ∈ MustBe.comparisons rule.options,
      check.Met (MustBe.sceneOf context rule subject v) := by
  rw [MustBe.verdict_iff_met returned, compares.checks_eq]
  constructor
  · rintro (off | ⟨check, member, met⟩)
    · cases compares.on.symm.trans off
    · rcases List.mem_cons.mp member with rfl | asked
      · -- Without bounds there is none that accepts the value.
        obtain ⟨_, _, _, none, _⟩ := met
        cases none
      · exact ⟨check, asked, met⟩
  · rintro ⟨check, asked, met⟩
    exact .inr ⟨check, List.mem_cons_of_mem _ asked, met⟩

end Compares

/-- A rule that asks for one comparison passes just when the operand stands for something with which
    the comparison is met. -/
theorem ComparesOnce.passed_iff {rule : Rule} {context : Context} {c : Comparator} {operand : Value}
    (compares : rule.ComparesOnce context c operand) (subject : Subject) (v : Value) :
    (MustBe.run context rule subject v).outcome = .ok true ↔
      ∃ resolved, subject.resolve operand = .ok resolved ∧ c.Met v resolved := by
  constructor
  · intro passed
    obtain ⟨check, asked, met⟩ := (compares.verdict_iff passed).mp rfl
    rw [compares.once] at asked
    obtain rfl := List.mem_singleton.mp asked
    exact met
  · rintro ⟨resolved, resolves, met⟩
    exact compares.passed_of_first compares.once (MustBe.run_of_met resolves met)

theorem ComparesOnce.passed_iff_of_literal {rule : Rule} {context : Context} {c : Comparator}
    {x : Value} (compares : rule.ComparesOnce context c x) (literal : x.isLiteral = true)
    (subject : Subject) (v : Value) :
    (MustBe.run context rule subject v).outcome = .ok true ↔ c.Met v x := by
  rw [compares.passed_iff]
  have resolves := Subject.resolve_of_isLiteral literal subject
  constructor
  · rintro ⟨resolved, resolvesToo, met⟩
    obtain rfl := Except.ok.inj (resolves.symm.trans resolvesToo)
    exact met
  · intro met
    exact ⟨x, resolves, met⟩

end Rule

namespace MustBe

open Value (ordered OnOneLine)

/-- How the verdicts on comparisons go together. A verdict is told from the comparison, its operand
    and the value. -/
structure Cohere (verdict : Comparator → Value → Value → Except Fault Bool) (v x : Value) :
    Prop where
  /-- No value is greater than another and at most it, nor less and at least it. -/
  greaterOrAtMost :
    ¬(verdict .greaterThan x v = .ok true ∧ verdict .lessOrEqualTo x v = .ok true)
  lessOrAtLeast :
    ¬(verdict .lessThan x v = .ok true ∧ verdict .greaterOrEqualTo x v = .ok true)
  /-- Where values can be ordered, to be at least another is to be greater or equal. -/
  atLeast : (∃ b, ordered .greaterOrEqual v x = .ok b) →
    (verdict .greaterOrEqualTo x v = .ok true ↔
      verdict .greaterThan x v = .ok true ∨ verdict .equalTo x v = .ok true)
  atMost : (∃ b, ordered .lessOrEqual v x = .ok b) →
    (verdict .lessOrEqualTo x v = .ok true ↔
      verdict .lessThan x v = .ok true ∨ verdict .equalTo x v = .ok true)
  /-- The value and the operand may change places. -/
  converse : v.isLiteral = true →
    (verdict .greaterThan x v = .ok true ↔ verdict .lessThan v x = .ok true)
  /-- On one line a value is greater than another or at most it. -/
  total : OnOneLine v x →
    (verdict .greaterThan x v = .ok true ↔ verdict .lessOrEqualTo x v ≠ .ok true)

/-- Rules that ask for one comparison each cohere, on all values that there are and with all
    operands that are taken as they are: lists within lists, sets, numbers of all kinds and what is
    no number, and values that cannot be compared. The records that have the values may differ. -/
theorem comparisons_cohere (context : Context) (subject : Value → Subject)
    (rule : Comparator → Value → Rule)
    (asks : ∀ c operand, (rule c operand).ComparesOnce context c operand) {v x : Value}
    (there : v ≠ .null) (thereToo : x ≠ .null) (literal : x.isLiteral = true)
    (formed : v.WellFormed) (formedToo : x.WellFormed) :
    Cohere (fun c operand value => (run context (rule c operand) (subject value) value).outcome)
      v x := by
  have passes (c : Comparator) {operand value : Value} (isLiteral : operand.isLiteral = true)
      (isThere : value ≠ .null) (operandThere : operand ≠ .null) :
      (run context (rule c operand) (subject value) value).outcome = .ok true ↔
        c.holds value operand = .ok true :=
    ((asks c operand).passed_iff_of_literal isLiteral (subject value) value).trans
      (Comparator.met_iff_holds isThere operandThere)
  have passesHere (c : Comparator) := passes c literal there thereToo
  have equal : (run context (rule .equalTo x) (subject v) v).outcome = .ok true ↔
      v.equals x = true := by
    rw [passesHere, Comparator.holds, Except.ok.injEq]
  have ranked := Value.ordered_ranked formed formedToo
  refine ⟨?_, ?_, fun canBe => ?_, fun canBe => ?_, fun isLiteral => ?_, fun line => ?_⟩
  · rw [passesHere, passesHere]
    exact ranked.not_greater_and_atMost
  · rw [passesHere, passesHere]
    exact ranked.mirrored.not_greater_and_atMost
  · obtain ⟨b, ordered⟩ := canBe
    rw [passesHere, passesHere, equal]
    exact ranked.atLeast_iff ordered
  · obtain ⟨b, ordered⟩ := canBe
    rw [passesHere, passesHere, equal]
    exact ranked.mirrored.atLeast_iff ordered
  · rw [passesHere, passes .lessThan isLiteral thereToo there]
    exact ranked.greater_iff_less_back
  · rw [passesHere, ne_eq, passesHere]
    obtain ⟨o, follows⟩ := Value.ordered_on_line line
    simp only [Comparator.holds, follows]
    cases o <;> simp [Relation.admits]

/-- A rule on a grade that asks for comparisons. -/
def gradeCompared (asked : List (Comparator × Value)) : Rule where
  field := .text "grade"
  options := asked.map fun (c, operand) => (.text c.name, operand)

theorem gradeCompared_option (asked : List (Comparator × Value)) {name : String}
    (apart : ∀ c : Comparator, c.name ≠ name) : (gradeCompared asked).options.option name = .null :=
  Entries.option_of_absent fun entry member isName => by
    obtain ⟨⟨c, operand⟩, _, rfl⟩ := List.mem_map.mp member
    exact apart c (Value.text.inj isName)

theorem gradeCompared_compares (context : Context) {asked : List (Comparator × Value)}
    (some : asked ≠ []) : (gradeCompared asked).Compares context where
  on := by
    have unnamed : (gradeCompared asked).name = .null :=
      gradeCompared_option asked (by intro c; cases c <;> decide)
    rw [unnamed]
    rfl
  field := ⟨"grade", rfl⟩
  only entry member _ := by
    obtain ⟨⟨c, operand⟩, _, rfl⟩ := List.mem_map.mp member
    exact ⟨c, rfl⟩
  directed := by
    obtain ⟨⟨c, operand⟩, rest, rfl⟩ := List.exists_cons_of_ne_nil some
    simp only [gradeCompared, List.map_cons, List.any_cons, c.isDirective_name, Bool.true_or]
  always := gradeCompared_option asked (by intro c; cases c <;> decide)

theorem gradeCompared_comparesOnce (context : Context) (c : Comparator) (operand : Value) :
    (gradeCompared [(c, operand)]).ComparesOnce context c operand where
  toCompares := gradeCompared_compares context (by simp)
  once := by
    simp only [gradeCompared, comparisons, List.map_cons, List.map_nil, List.filterMap_cons,
      List.filterMap_nil, Comparator.ofKey?_iff.mpr rfl, Option.map_some]

/-- Marks without repetition, and what they are for. -/
def marks (letters : List String) : Value :=
  .list [.set (Value.distinct (letters.map .text)), .text "final"]

theorem marks_wellFormed (letters : List String) : (marks letters).WellFormed := by
  refine .list (List.forall_mem_cons.mpr ⟨?_, List.forall_mem_singleton.mpr (.atom rfl)⟩)
  refine Value.wellFormed_set_distinct fun v member => ?_
  obtain ⟨letter, _, rfl⟩ := List.mem_map.mp member
  rfl

/-- Two marks are more than one of them. -/
theorem two_marks_exceed_one :
    let context : Context := ⟨.empty, ⟨⟨2024, 6, 15, by decide⟩, 0, none, by decide⟩⟩
    let subject : Value → Subject := fun grade => ⟨"A-1", none, none, [("grade", grade)], none⟩
    let rule := fun c operand => gradeCompared [(c, operand)]
    let verdict := fun c operand v => (run context (rule c operand) (subject v) v).outcome
    let two := marks ["A", "B", "A"]
    let one := marks ["A"]
    (∀ c operand, (rule c operand).ComparesOnce context c operand) ∧
      two ≠ .null ∧ one ≠ .null ∧ one.isLiteral = true ∧ two.WellFormed ∧ one.WellFormed ∧
      verdict .greaterThan one two = .ok true ∧ verdict .lessThan two one = .ok true ∧
      verdict .lessOrEqualTo one two ≠ .ok true ∧ verdict .greaterOrEqualTo one two = .ok true := by
  intro context subject rule verdict two one
  have compares := gradeCompared_comparesOnce context
  have twoThere : two ≠ .null := by simp [two, marks]
  have oneThere : one ≠ .null := by simp [one, marks]
  have exceeds : Value.ordered .greater two one = .ok true := by cbv
  have atLeast : Value.ordered .greaterOrEqual two one = .ok true := by cbv
  have greater : verdict .greaterThan one two = .ok true :=
    ((compares .greaterThan one).passed_iff_of_literal rfl (subject two) two).mpr
      ((Comparator.met_iff_holds twoThere oneThere).mpr exceeds)
  have cohere := comparisons_cohere context subject rule compares twoThere oneThere rfl
    (marks_wellFormed ["A", "B", "A"]) (marks_wellFormed ["A"])
  refine ⟨compares, twoThere, oneThere, rfl, marks_wellFormed _, marks_wellFormed _, greater, ?_,
    ?_, ?_⟩
  · exact (cohere.converse rfl).mp greater
  · exact fun atMost => cohere.greaterOrAtMost ⟨greater, atMost⟩
  · exact (cohere.atLeast ⟨true, atLeast⟩).mpr (.inl greater)

end MustBe

end RecordRules
