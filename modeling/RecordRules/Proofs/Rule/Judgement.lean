import RecordRules.Proofs.Rule.Report
import RecordRules.Proofs.Value.Lookup

/-!
# How rules are judged

A check that is satisfied lets a rule pass, and the checks before it only edit the message
(`runChecks_of_reached`). So as long as each check comes to something, all of them do
(`runChecks_total`), and a rule that is ready to file its failures comes to a verdict
(`Rule.Ready.verdict_total`).
-/

namespace RecordRules

/-- What counts as false gives way to a text. -/
theorem Value.exists_orElse_text {v : Value} (message : v.truthy = false ∨ ∃ s, v = .text s)
    (left : String) : ∃ s, v.orElse (.text left) = .text s := by
  unfold Value.orElse
  rcases message with empty | ⟨own, rfl⟩
  · exact ⟨left, by rw [empty, if_neg Bool.false_ne_true]⟩
  · split
    · exact ⟨own, rfl⟩
    · exact ⟨left, rfl⟩

namespace MustBe

variable {scene : Scene}

/-! ## Checks in order -/

theorem runChecks_of_satisfied {check : Check} {rest : List Check} {m : Message}
    (satisfied : (check.run scene).outcome = .ok .satisfied) :
    (runChecks scene (check :: rest) m).outcome = .ok none := by
  rw [runChecks, Trial.outcome_bind, satisfied]
  rfl

theorem runChecks_of_unsatisfied {check : Check} {rest : List Check} {m : Message}
    {edits : List Edit} (unsatisfied : (check.run scene).outcome = .ok (.unsatisfied edits)) :
    (runChecks scene (check :: rest) m).outcome
      = (runChecks scene rest (edits.foldl Message.edit m)).outcome := by
  rw [runChecks, Trial.outcome_bind, unsatisfied]
  rfl

/-- Checks up to one that is satisfied let a rule pass, as long as each of them comes to
    something. -/
theorem runChecks_of_reached {first rest : List Check} {check : Check}
    (before : ∀ other ∈ first, ∃ finding, (other.run scene).outcome = .ok finding)
    (satisfied : (check.run scene).outcome = .ok .satisfied) (m : Message) :
    (runChecks scene (first ++ check :: rest) m).outcome = .ok none := by
  induction first generalizing m with
  | nil => exact runChecks_of_satisfied satisfied
  | cons other others ih =>
    obtain ⟨⟨finding, came⟩, later⟩ := List.forall_mem_cons.mp before
    rw [List.cons_append]
    cases finding with
    | satisfied => exact runChecks_of_satisfied came
    | unsatisfied edits =>
      rw [runChecks_of_unsatisfied came]
      exact ih later _

/-- Checks each of which comes to something come to something together. -/
theorem runChecks_total {checks : List Check}
    (each : ∀ check ∈ checks, ∃ finding, (check.run scene).outcome = .ok finding) (m : Message) :
    ∃ found, (runChecks scene checks m).outcome = .ok found := by
  induction checks generalizing m with
  | nil => exact ⟨some m, rfl⟩
  | cons check rest ih =>
    obtain ⟨⟨finding, came⟩, later⟩ := List.forall_mem_cons.mp each
    cases finding with
    | satisfied => exact ⟨none, runChecks_of_satisfied came⟩
    | unsatisfied edits =>
      rw [runChecks_of_unsatisfied came]
      exact ih later _

/-- Without bounds the check of them has nothing to say. -/
theorem run_window_nil (field : ∃ name, scene.field = .text name) (withTime : Bool) :
    ((Check.window [] withTime).run scene).outcome = .ok (.unsatisfied []) := by
  obtain ⟨name, isName⟩ := field
  simp only [Check.run, isName, Subject.received, Value.asKey_text]
  rfl

/-! ## Verdicts -/

/-- Options whose checks come to something and whose lists of values can be shown are judged, with a
    text where no check is satisfied. -/
theorem judge_total {options : Entries} {lists : String}
    (each : ∀ check ∈ checks options, ∃ finding, (check.run scene).outcome = .ok finding)
    (listed : valueLists options = .ok lists)
    (message : (options.option "message").truthy = false ∨
      ∃ s, options.option "message" = .text s) :
    ∃ found : Option String, (judge options scene).outcome = .ok (found.map .text) := by
  obtain ⟨found, ran⟩ := runChecks_total each Message.start
  unfold judge
  rw [Trial.outcome_bind, ran]
  cases found with
  | none => exact ⟨none, rfl⟩
  | some m =>
    obtain ⟨s, isText⟩ := Value.exists_orElse_text message (m.append lists).finish
    refine ⟨some s, ?_⟩
    rw [Option.map_some, ← isText, listed]
    rfl

end MustBe

namespace Rule

/-- An enabled rule on an attribute, whose failures can be filed. Its message and the collection for
    its failures may be given, as what they are to be. -/
structure Ready (rule : Rule) (context : Context) : Prop where
  on : context.registry.isDisabled rule.name = .ok false
  field : ∃ name, rule.field = .text name
  message : (rule.options.option "message").truthy = false ∨
    ∃ s, rule.options.option "message" = .text s
  level : rule.options.option "error_level" = .null ∨
    ∃ c : Collection, rule.options.option "error_level" = .text c.text

theorem Ready.verdict_total {rule : Rule} {context : Context} {subject : Subject} {v : Value}
    {lists : String} (ready : rule.Ready context)
    (directed : (rule.options.any fun (key, _) => MustBe.isDirective key) = true)
    (each : ∀ check ∈ MustBe.checks rule.options,
      ∃ finding, (check.run (MustBe.sceneOf context rule subject v)).outcome = .ok finding)
    (listed : MustBe.valueLists rule.options = .ok lists) :
    ∃ verdict, (MustBe.run context rule subject v).outcome = .ok verdict := by
  obtain ⟨found, judged⟩ := MustBe.judge_total each listed ready.message
  cases found with
  | none => exact ⟨true, MustBe.passed_of_judged ready.on directed judged⟩
  | some s =>
    exact ⟨false, MustBe.failed_of_judged ready.on directed ready.field ready.level judged⟩

end Rule

end RecordRules
