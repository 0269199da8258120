import Mathlib
import RecordRules.Proofs.Declaration.Loading

/-!
# Summaries of engines

A summary counts the rules of an engine by kind and by severity: each word is counted as often as
it occurs (`lookup_counts`), so the counts add up to the number of rules (`sum_counts`). What a rule
file is accepted for is what an engine is built of: one declaration for each element of its lists,
and one rule for each declaration that is enabled (`loaded_is_built_and_counted`).
-/

namespace RecordRules

namespace Named

/-- A number that is raised by one raises the sum by one. -/
theorem sum_put (counted : Named Nat) (word : String) :
    ((counted.put word ((counted.lookup word).getD 0 + 1)).map (·.2)).sum
      = (counted.map (·.2)).sum + 1 := by
  induction counted with
  | nil => simp [put]
  | cons head rest ih =>
    obtain ⟨key, n⟩ := head
    by_cases same : key = word
    · simp [put, same]
      omega
    · have differs : (key == word) = false := beq_false_of_ne same
      have passed : (word == key) = false := beq_false_of_ne fun e => same e.symm
      simp only [put, differs, Bool.false_eq_true, reduceIte, List.lookup_cons, passed,
        List.map_cons, List.sum_cons, ih]
      omega

end Named

namespace Engine

/-! ## Counts -/

/-- Every word is counted as often as it occurs. -/
theorem lookup_counts (words : List String) (word : String) :
    ((counts words).lookup word).getD 0 = words.count word := by
  -- The induction is on the words still to be counted, after any that were counted before.
  have counting : ∀ counted : Named Nat,
      ((words.foldl (fun counted w => Named.put counted w ((counted.lookup w).getD 0 + 1))
        counted).lookup word).getD 0 = (counted.lookup word).getD 0 + words.count word := by
    induction words with
    | nil => simp
    | cons first rest ih =>
      intro counted
      rw [List.foldl_cons, ih]
      by_cases same : word = first
      · subst same
        rw [Named.lookup_put, List.count_cons_self, Option.getD_some]
        omega
      · rw [Named.lookup_put_other _ _ _ same, List.count_cons_of_ne (Ne.symm same)]
  simpa [counts] using counting []

/-- The counts of some words add up to their number. -/
theorem sum_counts (words : List String) : ((counts words).map (·.2)).sum = words.length := by
  have counting : ∀ counted : Named Nat,
      ((words.foldl (fun counted w => Named.put counted w ((counted.lookup w).getD 0 + 1))
        counted).map (·.2)).sum = (counted.map (·.2)).sum + words.length := by
    induction words with
    | nil => simp
    | cons first rest ih =>
      intro counted
      rw [List.foldl_cons, ih, Named.sum_put, List.length_cons]
      omega
  simpa [counts] using counting []

/-- Words that tell things apart are counted as often as the thing occurs that they stand for. -/
theorem lookup_counts_map {α : Type} [DecidableEq α] {text : α → String}
    (apart : Function.Injective text) (things : List α) (a : α) :
    ((counts (things.map text)).lookup (text a)).getD 0 = things.count a := by
  rw [lookup_counts, List.count_map_of_injective things text apart]

end Engine

theorem RuleKind.text_injective : Function.Injective RuleKind.text := by
  intro a b same
  have named := RuleKind.ofValue?_iff.mpr (congrArg Value.text same)
  rw [RuleKind.ofValue?_iff.mpr rfl] at named
  exact Option.some.inj named

theorem Severity.text_injective : Function.Injective Severity.text := by
  intro a b same
  have named := Severity.ofValue?_iff.mpr (congrArg Value.text same)
  rw [Severity.ofValue?_iff.mpr rfl] at named
  exact Option.some.inj named

namespace Engine

/-- What a summary says of an engine: how many of its rules are of each kind and of each severity,
    so that either counts add up to the number of rules. -/
structure Summarised (engine : Engine) : Prop where
  kinds : (engine.countByKind.map (·.2)).sum = engine.rules.length
  severities : (engine.countBySeverity.map (·.2)).sum = engine.rules.length
  ofKind : ∀ kind : RuleKind, (engine.countByKind.lookup kind.text).getD 0
    = (engine.rules.map (·.kind)).count kind
  ofSeverity : ∀ severity : Severity, (engine.countBySeverity.lookup severity.text).getD 0
    = (engine.rules.map (·.severity)).count severity

theorem summarised (engine : Engine) : engine.Summarised where
  kinds := by rw [countByKind, sum_counts, List.length_map]
  severities := by rw [countBySeverity, sum_counts, List.length_map]
  ofKind kind := by
    rw [← lookup_counts_map RuleKind.text_injective, List.map_map]
    rfl
  ofSeverity severity := by
    rw [← lookup_counts_map Severity.text_injective, List.map_map]
    rfl

end Engine

namespace Declaration

/-! ## What is loaded is what is built -/

/-- A document that is accepted has a list of rules for each attribute. -/
theorem lists_of_loaded {document : Value} {declarations : List Declaration} {fields : Entries}
    (loaded : ofDocument document = .ok declarations)
    (rules : document.part "rules" = .ok (.dict fields)) :
    ∀ entry ∈ fields, ∃ elements, entry.2 = .list elements := by
  obtain ⟨found, groups, areRules, each, _⟩ := ofDocument_ok_iff.mp loaded
  obtain rfl := Value.dict.inj (Except.ok.inj (areRules.symm.trans rules))
  intro entry member
  obtain ⟨group, _, came⟩ := exists_of_mem_left each entry member
  obtain ⟨elements, isList, _⟩ := ofField_ok_iff.mp came
  exact ⟨elements, isList⟩

/-- A declaration that an engine knows what to do with. -/
structure Legal (d : Declaration) : Prop where
  kind : d.kind.text = "must_be" ∨ d.kind.text = "date"
  severity : d.severity = .text "error" ∨ d.severity = .text "warning"

theorem legal_of_written {element : Value × Value × Nat} {d : Declaration}
    (written : IsWritten element d) : d.Legal := by
  obtain ⟨_, _, content⟩ := written
  obtain ⟨severity, known⟩ := content.known
  have named := Severity.ofValue?_iff.mp known
  constructor
  · cases d.kind with
    | mustBe => exact .inl rfl
    | date => exact .inr rfl
  · cases severity with
    | error => exact .inl named
    | warning => exact .inr named

/-- A rule file that is accepted gives one legal declaration for each element of its lists, in the
    order of the file. An engine is built of them without a fault: it holds the rules of those that
    are enabled, and its counts by kind and by severity add up to their number. -/
theorem loaded_is_built_and_counted {document : Value} {declarations : List Declaration}
    (loaded : ofDocument document = .ok declarations) :
    ∃ fields engine, document.part "rules" = .ok (.dict fields) ∧
      (∀ entry ∈ fields, ∃ elements, entry.2 = .list elements) ∧
      List.Forall₂ IsWritten (elementsIn fields) declarations ∧
      (∀ d ∈ declarations, d.Legal) ∧
      Engine.build (listValue declarations) = .ok engine ∧
      engine.rules = (declarations.filter fun d => d.enabled.truthy).map installed ∧
      engine.rules.length = declarations.countP (fun d => d.enabled.truthy) ∧
      engine.Summarised := by
  obtain ⟨fields, rules, each⟩ := written_of_loaded loaded
  have legal : ∀ d ∈ declarations, d.Legal := by
    intro d member
    obtain ⟨element, _, written⟩ := exists_of_mem_left each.flip d member
    exact legal_of_written written
  refine ⟨fields, _, rules, lists_of_loaded loaded rules, each, legal, build_of_loaded loaded, rfl,
    ?_, Engine.summarised _⟩
  rw [List.length_map, List.countP_eq_length_filter]

/-- A rule file with rules of both kinds on two attributes, one of them not enabled. -/
def mixedFile : Value :=
  .dict [(.text "rules", .dict [
    (.text "start", .list [
      .dict [(.text "type", .text "date"),
        (.text "params", .dict [(.text "before", .text "today")])],
      .dict [(.text "type", .text "must_be"), (.text "enabled", .int 0),
        (.text "params", .dict [(.text "present", .bool true)])]]),
    (.text "title", .list [
      .dict [(.text "type", .text "must_be"), (.text "severity", .text "warning"),
        (.text "params", .dict [(.text "present", .bool true)])]])])]

/-- The declarations in that file. -/
def mixedDeclarations : List Declaration :=
  [{ name := .text "start_date_0", kind := .date, field := .text "start",
     parameters := [(.text "before", .sentinel .today)], severity := .text "error",
     enabled := .bool true },
   { name := .text "start_must_be_1", kind := .mustBe, field := .text "start",
     parameters := [(.text "present", .bool true)], severity := .text "error",
     enabled := .int 0 },
   { name := .text "title_must_be_0", kind := .mustBe, field := .text "title",
     parameters := [(.text "present", .bool true)], severity := .text "warning",
     enabled := .bool true }]

theorem mixedFile_is_built :
    ofDocument mixedFile = .ok mixedDeclarations ∧
      ∃ engine, Engine.build (listValue mixedDeclarations) = .ok engine ∧
        engine.rules.length = 2 ∧ engine.Summarised := by
  have loaded : ofDocument mixedFile = .ok mixedDeclarations := by cbv
  obtain ⟨_, engine, _, _, _, _, built, _, counted, summarised⟩ :=
    loaded_is_built_and_counted loaded
  exact ⟨loaded, engine, built, counted.trans (by cbv), summarised⟩

end Declaration

end RecordRules
