import RecordRules.Proofs.Rule.Changes
import RecordRules.Proofs.Rule.Filing

/-!
# What checks come to

A rule makes its checks one after another and stops at the first that is satisfied. What satisfies a
check does not depend on the others (`Check.Met`), so a rule that runs passes just when one of its
checks is met (`verdict_iff_met`), and otherwise every check has left its edits (`judge_cases`).
-/

namespace RecordRules

/-! ## Bounds, comparisons and conditions -/

namespace Comparator

/-- What it takes to satisfy a comparison with what an operand stands for: there is nothing to
    compare with, the comparison holds of a value that is there, or it asks for a difference. -/
def Met (c : Comparator) (value operand : Value) : Prop :=
  operand = .null ∨ (value ≠ .null ∧ c.holds value operand = .ok true) ∨
    (c = .notEqualTo ∧ value.equals operand = false)

theorem attempt_ok_iff {c : Comparator} {field value operand : Value} {b : Bool}
    (came : (c.attempt field value operand).outcome = .ok b) :
    b = true ↔ c.holds value operand = .ok true := by
  unfold attempt at came
  cases held : c.holds value operand with
  | ok holds =>
    simp only [held] at came
    obtain rfl := Except.ok.inj came
    simp
  | error e =>
    simp only [held] at came
    split at came
    · simp only [Trial.outcome_bind_iff] at came
      obtain ⟨_, _, _, _, _, _, same⟩ := came
      obtain rfl := Except.ok.inj same
      simp
    · cases came

theorem satisfied_iff_met {c : Comparator} {field value operand : Value} {b : Bool}
    (came : (c.satisfied field value operand).outcome = .ok b) :
    b = true ↔ c.Met value operand := by
  unfold satisfied at came
  split at came
  · obtain rfl := Except.ok.inj came
    simp [Met]
  next there =>
    obtain rfl := Except.ok.inj came
    have operandThere : operand ≠ .null := there
    simp [Met, operandThere]
  next there valueThere =>
    have operandThere : operand ≠ .null := there
    have isThere : value ≠ .null := valueThere
    obtain ⟨held, tried, rest⟩ := Trial.outcome_bind_iff.mp came
    have holds := attempt_ok_iff tried
    cases held with
    | true =>
      simp only [reduceIte] at rest
      obtain rfl := Except.ok.inj rest
      simp [Met, isThere, holds.mp rfl]
    | false =>
      simp only [Bool.false_eq_true, reduceIte] at rest
      obtain rfl := Except.ok.inj rest
      have fails : c.holds value operand ≠ .ok true := fun h => Bool.false_ne_true (holds.mpr h)
      simp [Met, operandThere, fails]

end Comparator

namespace Condition

/-- A condition on an attribute that does not hold. -/
def Unmet (subject : Subject) (condition : Value × Value) : Prop :=
  ∃ current, subject.read condition.1 = .ok current ∧
    holds subject condition.2 current = .ok false

/-- A condition on an attribute that holds, with its clause, which shows what is left of the value. -/
def Clause (subject : Subject) (condition : Value × Value) (text : String) : Prop :=
  ∃ current, subject.read condition.1 = .ok current ∧
    holds subject condition.2 current = .ok true ∧
    clause condition.1 condition.2 (left condition.2 current) = .ok text

/-- One of some conditions does not hold, on what those before it have left. -/
def SomeUnmet (subject : Subject) (conditions : Entries) : Prop :=
  ∃ held condition later, conditions = held ++ condition :: later ∧
    Unmet (reached subject held) condition

theorem someUnmet_cons_iff {subject : Subject} {condition : Value × Value} {rest : Entries} :
    SomeUnmet subject (condition :: rest) ↔
      Unmet subject condition ∨ SomeUnmet (after subject condition) rest := by
  constructor
  · rintro ⟨held, unmet, later, same, fails⟩
    cases held with
    | nil =>
      obtain ⟨rfl, rfl⟩ := List.cons.inj same
      exact .inl fails
    | cons first others =>
      obtain ⟨rfl, rfl⟩ := List.cons.inj same
      exact .inr ⟨others, unmet, later, rfl, fails⟩
  · rintro (fails | ⟨held, unmet, later, rfl, fails⟩)
    · exact ⟨[], condition, rest, rfl, fails⟩
    · exact ⟨condition :: held, unmet, later, rfl, fails⟩

/-- Where no condition changes a value, one of them does not hold just if it does not by itself. -/
theorem someUnmet_iff_of_left {subject : Subject} {conditions : Entries}
    (leave : ∀ condition ∈ conditions, ∀ current, left condition.2 current = current) :
    SomeUnmet subject conditions ↔ ∃ condition ∈ conditions, Unmet subject condition := by
  constructor
  · rintro ⟨held, condition, later, rfl, fails⟩
    rw [reached_of_left fun c member => leave c (List.mem_append_left _ member)] at fails
    exact ⟨condition, by simp, fails⟩
  · rintro ⟨condition, member, fails⟩
    obtain ⟨held, later, rfl⟩ := List.append_of_mem member
    refine ⟨held, condition, later, rfl, ?_⟩
    rwa [reached_of_left fun c inHeld => leave c (List.mem_append_left _ inHeld)]

/-- Conditions that all hold, one after another, with their clauses. -/
inductive Clauses : Subject → Entries → List String → Prop where
  | nil {subject : Subject} : Clauses subject [] []
  | cons {subject : Subject} {condition : Value × Value} {rest : Entries} {text : String}
      {texts : List String} (first : Clause subject condition text)
      (later : Clauses (after subject condition) rest texts) :
      Clauses subject (condition :: rest) (text :: texts)

theorem not_someUnmet_of_clauses {subject : Subject} {conditions : Entries} {texts : List String}
    (clauses : Clauses subject conditions texts) : ¬SomeUnmet subject conditions := by
  induction clauses with
  | nil =>
    rintro ⟨held, condition, later, same, _⟩
    cases held <;> cases same
  | cons first later ih =>
    rw [someUnmet_cons_iff]
    rintro (⟨current, read, fails⟩ | others)
    · obtain ⟨again, readAgain, holds, _⟩ := first
      obtain rfl := Except.ok.inj (read.symm.trans readAgain)
      cases Except.ok.inj (fails.symm.trans holds)
    · exact ih others

theorem clauses_cases {subject : Subject} {field : Value} {conditions : Entries}
    {found : Option (List String)} (came : (clauses subject field conditions).outcome = .ok found) :
    (found = none ∧ SomeUnmet subject conditions) ∨
      ∃ texts, found = some texts ∧ Clauses subject conditions texts := by
  induction conditions generalizing subject found with
  | nil =>
    obtain rfl := Except.ok.inj came
    exact .inr ⟨[], rfl, .nil⟩
  | cons entry rest ih =>
    obtain ⟨name, condition⟩ := entry
    unfold clauses at came
    obtain ⟨current, read, came⟩ := Trial.outcome_bind_iff.mp came
    obtain ⟨_, _, came⟩ := Trial.outcome_bind_iff.mp came
    obtain ⟨held, holdsIs, came⟩ := Trial.outcome_bind_iff.mp came
    rw [someUnmet_cons_iff, after_of_read read]
    cases held with
    | true =>
      simp only [reduceIte] at came
      obtain ⟨text, clauseIs, came⟩ := Trial.outcome_bind_iff.mp came
      obtain ⟨others, othersAre, came⟩ := Trial.outcome_bind_iff.mp came
      obtain rfl := Except.ok.inj came
      rcases ih othersAre with ⟨rfl, unmet⟩ | ⟨texts, rfl, clausesAre⟩
      · exact .inl ⟨rfl, .inr unmet⟩
      · rw [← after_of_read read] at clausesAre
        exact .inr ⟨text :: texts, rfl, .cons ⟨current, read, holdsIs, clauseIs⟩ clausesAre⟩
    | false =>
      simp only [Bool.false_eq_true, reduceIte, Trial.outcome_bind_iff] at came
      obtain ⟨_, _, _, _, _, _, same⟩ := came
      obtain rfl := Except.ok.inj same
      exact .inl ⟨rfl, .inl ⟨current, read, holdsIs⟩⟩

end Condition

/-! ## Checks -/

namespace MustBe

variable {scene : Scene}

/-- A bound that the value satisfies. -/
def Accepts (scene : Scene) (asReceived : Value) (withTime : Bool) (bound : Direction × Value) :
    Prop :=
  Bound.evaluate scene.subject scene.clock scene.value asReceived bound.2 bound.1 withTime
    = .ok none

/-- A bound that the value fails, with what the bound says. -/
def Rejects (scene : Scene) (asReceived : Value) (withTime : Bool) (bound : Direction × Value)
    (failure : String) : Prop :=
  Bound.evaluate scene.subject scene.clock scene.value asReceived bound.2 bound.1 withTime
    = .ok (some failure)

theorem boundFinding_cases {asReceived : Value} {withTime : Bool}
    {bounds : List (Direction × Value)} {edits : List Edit} {finding : Finding}
    (came : boundFinding scene asReceived withTime bounds edits = .ok finding) :
    (finding = .satisfied ∧ ∃ bound ∈ bounds, Accepts scene asReceived withTime bound) ∨
      ∃ failures : List String, finding = .unsatisfied (edits ++ failures.map .replace) ∧
        List.Forall₂ (Rejects scene asReceived withTime) bounds failures := by
  induction bounds generalizing edits with
  | nil =>
    obtain rfl := Except.ok.inj came
    exact .inr ⟨[], by simp, .nil⟩
  | cons bound rest ih =>
    obtain ⟨d, limit⟩ := bound
    unfold boundFinding at came
    obtain ⟨evaluation, evaluated, came⟩ := ok_bind_iff.mp came
    cases evaluation with
    | none =>
      obtain rfl := Except.ok.inj came
      exact .inl ⟨rfl, (d, limit), List.mem_cons_self, evaluated⟩
    | some failure =>
      rcases ih came with ⟨rfl, other, member, accepts⟩ | ⟨failures, rfl, rejects⟩
      · exact .inl ⟨rfl, other, List.mem_cons_of_mem _ member, accepts⟩
      · exact .inr ⟨failure :: failures, by simp, .cons evaluated rejects⟩

/-- What it takes to satisfy a check. -/
def Check.Met (scene : Scene) : Check → Prop
  | .blank => scene.value.isBlank = true
  | .present => scene.value.isPresent = true
  | .oneOf values => scene.value.memberOf values.flatten = true
  | .notAnyOf values => scene.value.memberOf values.flatten = false
  | .onlyFrom values => ∀ v ∈ scene.value.asSequence, v.memberOf values.flatten = true
  | .window bounds withTime =>
    ∃ asReceived, scene.subject.received scene.field = .ok asReceived ∧
      ∃ bound ∈ bounds, Accepts scene asReceived withTime bound
  | .comparison c operand =>
    ∃ resolved, scene.subject.resolve operand = .ok resolved ∧ c.Met scene.value resolved
  | .conditions (.dict entries) => Condition.SomeUnmet scene.subject entries
  | .conditions _ => False

/-- The edits that a check leaves if it is not satisfied. -/
def Check.Leaves (scene : Scene) (edits : List Edit) : Check → Prop
  | .blank => edits = [.append " blank"]
  | .present => edits = [.append " present"]
  | .oneOf _ | .notAnyOf _ =>
    ∃ sentence, notValid scene.value = .ok sentence ∧ edits = [.replace sentence]
  | .onlyFrom _ =>
    ∃ shown, Value.displayAll scene.value.asSequence = .ok shown ∧
      edits = [.replace (": " ++ shown ++ " is not a valid value")]
  | .window bounds withTime =>
    ∃ asReceived failures, scene.subject.received scene.field = .ok asReceived ∧
      List.Forall₂ (Rejects scene asReceived withTime) bounds failures ∧
      edits = failures.map .replace
  | .comparison c operand =>
    ∃ resolved text, scene.subject.resolve operand = .ok resolved ∧
      c.clause operand resolved = .ok text ∧ edits = [.append text]
  | .conditions (.dict entries) =>
    ∃ texts, Condition.Clauses scene.subject entries texts ∧
      edits = if texts = [] then [] else [.append (" when " ++ " and ".intercalate texts)]
  | .conditions _ => False

/-- What a finding says of its check: it is met, or it is not and leaves its edits. -/
def Check.ComesTo (scene : Scene) (check : Check) (finding : Finding) : Prop :=
  (finding = .satisfied ∧ check.Met scene) ∨
    ∃ edits, finding = .unsatisfied edits ∧ ¬check.Met scene ∧ check.Leaves scene edits

theorem window_comesTo {bounds : List (Direction × Value)} {withTime : Bool} {finding : Finding}
    (came : ((Check.window bounds withTime).run scene).outcome = .ok finding) :
    (Check.window bounds withTime).ComesTo scene finding := by
  obtain ⟨asReceived, received, found⟩ := Trial.outcome_bind_iff.mp came
  rcases boundFinding_cases found with ⟨rfl, accepted⟩ | ⟨failures, rfl, rejects⟩
  · exact .inl ⟨rfl, asReceived, received, accepted⟩
  · refine .inr ⟨failures.map .replace, rfl, ?_, asReceived, failures, received, rejects, rfl⟩
    rintro ⟨again, receivedAgain, bound, member, accepts⟩
    obtain rfl := Except.ok.inj (received.symm.trans receivedAgain)
    obtain ⟨failure, _, rejected⟩ := exists_of_mem_left rejects bound member
    cases Except.ok.inj (accepts.symm.trans rejected)

theorem comparison_comesTo {c : Comparator} {operand : Value} {finding : Finding}
    (came : ((Check.comparison c operand).run scene).outcome = .ok finding) :
    (Check.comparison c operand).ComesTo scene finding := by
  unfold Check.run at came
  obtain ⟨resolved, resolves, came⟩ := Trial.outcome_bind_iff.mp came
  obtain ⟨held, holdsIs, came⟩ := Trial.outcome_bind_iff.mp came
  have met := Comparator.satisfied_iff_met holdsIs
  cases held with
  | true =>
    simp only [reduceIte] at came
    obtain rfl := Except.ok.inj came
    exact .inl ⟨rfl, resolved, resolves, met.mp rfl⟩
  | false =>
    simp only [Bool.false_eq_true, reduceIte] at came
    obtain ⟨text, clauseIs, same⟩ := Trial.outcome_bind_iff.mp came
    obtain rfl := Except.ok.inj same
    refine .inr ⟨_, rfl, ?_, resolved, text, resolves, clauseIs, rfl⟩
    rintro ⟨again, resolvesAgain, met'⟩
    obtain rfl := Except.ok.inj (resolves.symm.trans resolvesAgain)
    exact Bool.false_ne_true (met.mpr met')

theorem conditions_comesTo {entries : Entries} {finding : Finding}
    (came : ((Check.conditions (.dict entries)).run scene).outcome = .ok finding) :
    (Check.conditions (.dict entries)).ComesTo scene finding := by
  obtain ⟨found, foundIs, came⟩ := Trial.outcome_bind_iff.mp came
  rcases Condition.clauses_cases foundIs with ⟨rfl, unmet⟩ | ⟨texts, rfl, clauses⟩
  · obtain rfl := Except.ok.inj came
    exact .inl ⟨rfl, unmet⟩
  · have notMet := Condition.not_someUnmet_of_clauses clauses
    cases texts with
    | nil =>
      obtain rfl := Except.ok.inj came
      exact .inr ⟨[], rfl, notMet, [], clauses, rfl⟩
    | cons text others =>
      obtain rfl := Except.ok.inj came
      exact .inr ⟨_, rfl, notMet, text :: others, clauses, rfl⟩

/-- A check that comes to something is met and satisfied, or is not met and leaves its edits. -/
theorem Check.run_comesTo {check : Check} {finding : Finding}
    (came : (check.run scene).outcome = .ok finding) : check.ComesTo scene finding := by
  cases check with
  | blank =>
    obtain rfl := Except.ok.inj came
    cases blank : scene.value.isBlank <;> simp [Check.ComesTo, Check.Met, Check.Leaves, blank]
  | present =>
    obtain rfl := Except.ok.inj came
    cases present : scene.value.isPresent <;>
      simp [Check.ComesTo, Check.Met, Check.Leaves, present]
  | oneOf values =>
    unfold Check.run at came
    cases member : scene.value.memberOf values.flatten with
    | true =>
      simp only [member, reduceIte] at came
      obtain rfl := Except.ok.inj came
      exact .inl ⟨rfl, member⟩
    | false =>
      simp only [member, Bool.false_eq_true, reduceIte] at came
      obtain ⟨sentence, shown, same⟩ := Trial.outcome_bind_iff.mp came
      obtain rfl := Except.ok.inj same
      exact .inr ⟨_, rfl, by simp [Check.Met, member], sentence, shown, rfl⟩
  | notAnyOf values =>
    unfold Check.run at came
    cases member : scene.value.memberOf values.flatten with
    | true =>
      simp only [member, reduceIte] at came
      obtain ⟨sentence, shown, same⟩ := Trial.outcome_bind_iff.mp came
      obtain rfl := Except.ok.inj same
      exact .inr ⟨_, rfl, by simp [Check.Met, member], sentence, shown, rfl⟩
    | false =>
      simp only [member, Bool.false_eq_true, reduceIte] at came
      obtain rfl := Except.ok.inj came
      exact .inl ⟨rfl, member⟩
  | onlyFrom values =>
    unfold Check.run at came
    cases members : scene.value.asSequence.all fun v => v.memberOf values.flatten with
    | true =>
      simp only [members, reduceIte] at came
      obtain rfl := Except.ok.inj came
      exact .inl ⟨rfl, List.all_eq_true.mp members⟩
    | false =>
      simp only [members, Bool.false_eq_true, reduceIte] at came
      obtain ⟨shown, shows, same⟩ := Trial.outcome_bind_iff.mp came
      obtain rfl := Except.ok.inj same
      refine .inr ⟨_, rfl, fun all => ?_, shown, shows, rfl⟩
      rw [List.all_eq_true.mpr all] at members
      cases members
  | window bounds withTime => exact window_comesTo came
  | comparison c operand => exact comparison_comesTo came
  | conditions given =>
    cases given with
    | dict entries => exact conditions_comesTo came
    | _ =>
      -- Conditions that are no mapping are a fault, so nothing came of them.
      obtain ⟨_, _, thrown⟩ := Trial.outcome_bind_iff.mp came
      cases thrown

/-! ## Checks in order -/

/-- Checks none of which is met, with the edits that they leave one after another. -/
inductive AllLeave (scene : Scene) : List Check → List Edit → Prop where
  | nil : AllLeave scene [] []
  | cons {check : Check} {rest : List Check} {own others : List Edit}
      (unmet : ¬check.Met scene) (leaves : check.Leaves scene own)
      (later : AllLeave scene rest others) : AllLeave scene (check :: rest) (own ++ others)

theorem not_met_of_allLeave {checks : List Check} {edits : List Edit}
    (left : AllLeave scene checks edits) : ∀ check ∈ checks, ¬check.Met scene := by
  induction left with
  | nil => simp
  | cons unmet leaves later ih =>
    intro check member
    rcases List.mem_cons.mp member with rfl | inRest
    · exact unmet
    · exact ih check inRest

theorem allLeave_append {checks others : List Check} {edits : List Edit}
    (left : AllLeave scene (checks ++ others) edits) :
    ∃ first last, AllLeave scene checks first ∧ AllLeave scene others last ∧
      edits = first ++ last := by
  induction checks generalizing edits with
  | nil => exact ⟨[], edits, .nil, left, rfl⟩
  | cons check rest ih =>
    rw [List.cons_append] at left
    cases left with
    | cons unmet leaves later =>
      obtain ⟨first, last, leftRest, leftOthers, rfl⟩ := ih later
      exact ⟨_, last, .cons unmet leaves leftRest, leftOthers, by rw [List.append_assoc]⟩

theorem runChecks_cases {checks : List Check} {m : Message} {found : Option Message}
    (came : (runChecks scene checks m).outcome = .ok found) :
    (found = none ∧ ∃ check ∈ checks, check.Met scene) ∨
      ∃ edits, found = some (edits.foldl Message.edit m) ∧ AllLeave scene checks edits := by
  induction checks generalizing m with
  | nil =>
    obtain rfl := Except.ok.inj came
    exact .inr ⟨[], rfl, .nil⟩
  | cons check rest ih =>
    unfold runChecks at came
    obtain ⟨finding, ran, came⟩ := Trial.outcome_bind_iff.mp came
    rcases Check.run_comesTo ran with ⟨rfl, met⟩ | ⟨own, rfl, unmet, leaves⟩
    · obtain rfl := Except.ok.inj came
      exact .inl ⟨rfl, check, List.mem_cons_self, met⟩
    · rcases ih came with ⟨rfl, other, member, met⟩ | ⟨others, rfl, later⟩
      · exact .inl ⟨rfl, other, List.mem_cons_of_mem check member, met⟩
      · exact .inr ⟨own ++ others, by rw [List.foldl_append], .cons unmet leaves later⟩

/-- A rule that is judged passes with one of its checks met, or fails with the message that all of
    them have edited. -/
theorem judge_cases {options : Entries} {found : Option Value}
    (judged : (judge options scene).outcome = .ok found) :
    (found = none ∧ ∃ check ∈ checks options, check.Met scene) ∨
      ∃ edits lists, AllLeave scene (checks options) edits ∧ valueLists options = .ok lists ∧
        found = some ((options.option "message").orElse
          (.text (((edits.foldl Message.edit Message.start).append lists).finish))) := by
  unfold judge at judged
  obtain ⟨left, ran, rest⟩ := Trial.outcome_bind_iff.mp judged
  rcases runChecks_cases ran with ⟨rfl, met⟩ | ⟨edits, rfl, leaves⟩
  · obtain rfl := Except.ok.inj rest
    exact .inl ⟨rfl, met⟩
  · obtain ⟨lists, listsAre, same⟩ := Trial.outcome_bind_iff.mp rest
    obtain rfl := Except.ok.inj same
    exact .inr ⟨edits, lists, leaves, listsAre, rfl⟩

/-- A rule that runs to its end passes just when it is disabled or one of its checks is met. -/
theorem verdict_iff_met {context : Context} {rule : Rule} {subject : Subject} {value : Value}
    {verdict : Bool} (returned : (run context rule subject value).outcome = .ok verdict) :
    verdict = true ↔ context.registry.isDisabled rule.name = .ok true ∨
      ∃ check ∈ checks rule.options, check.Met (sceneOf context rule subject value) := by
  have ran := ran_of_yields (Run.yields_of_ok returned)
  -- The cases say what was filed, which is no variable before this.
  generalize (run context rule subject value).filed = filed at ran
  cases ran with
  | disabled off => simp [off]
  | passed on judged =>
    rcases judge_cases judged with ⟨_, met⟩ | ⟨_, _, _, _, impossible⟩
    · simp [met]
    · cases impossible
  | failed on judged files text =>
    rcases judge_cases judged with ⟨impossible, _⟩ | ⟨edits, _, leaves, _⟩
    · cases impossible
    · simp only [Bool.false_eq_true, on, Except.ok.injEq, false_or, false_iff]
      rintro ⟨check, member, met⟩
      exact not_met_of_allLeave leaves check member met

end MustBe

end RecordRules
