import Mathlib
import RecordRules.Proofs.Declaration.Loading
import RecordRules.Proofs.Engine.Account

/-!
# Outcomes of rule files

A rule file may give a rule a name that is not a text. Then the rules run and the record gets its
status, but there is no outcome: it could not tell the name. Such names are the only reason why
rules that have all come to their end have no outcome (`outcome_of_loaded_iff`).
-/

namespace RecordRules

namespace Engine

variable {engine : Engine} {context : Context} {record : Record}
  {reached : List (Value × Standing)}

/-- Rules that have all come to their end settle the status, whether or not there is an outcome. -/
theorem status_of_reached
    (came : (standings context record.subject engine.rules).outcome = .ok reached) :
    (engine.validate context record).record.status
      = if (named reached .failed).isEmpty then .valid else .invalid := by
  unfold validate
  simp only [came]

/-- A run whose rules have all come to their end can only be stopped by its outcome. -/
theorem fault_of_reached {fault : Fault}
    (came : (standings context record.subject engine.rules).outcome = .ok reached)
    (stopped : (engine.validate context record).outcome = .error fault) :
    ∃ problems, fault = .model "ValidationResult" problems := by
  unfold validate Checked.orFault at stopped
  simp only [came] at stopped
  generalize Outcome.ofStandings _ reached = told at stopped
  cases told with
  | ok outcome => cases stopped
  | error problems => exact ⟨problems, (Except.error.inj stopped).symm⟩

/-- Rules that have all come to their end have an outcome just when all their names are texts. -/
theorem outcome_of_reached_iff
    (came : (standings context record.subject engine.rules).outcome = .ok reached) :
    (∃ outcome, (engine.validate context record).outcome = .ok outcome) ↔
      ∀ i ∈ engine.rules, ∃ text, i.name.asText = .ok text := by
  obtain ⟨accounts, accounted, _⟩ := standings_yields_iff.mp (Run.yields_of_ok came)
  simp only [validate_ok_iff_tells accounted, exists_tells_iff, ← accounted.rules_eq,
    List.forall_mem_map]

/-- Where all rules of a file that was accepted have come to their end on a record, its status is
    settled, and there is an outcome just when the name of each enabled rule is a text; so there is
    one if all names that the file spells out are texts. Otherwise the run stops after all. -/
theorem outcome_of_loaded_iff {document : Value} {declarations : List Declaration}
    (loaded : Declaration.ofDocument document = .ok declarations) :
    ∃ engine, build (Declaration.listValue declarations) = .ok engine ∧
      ∀ (context : Context) (record : Record) (reached : List (Value × Standing)),
        (standings context record.subject engine.rules).outcome = .ok reached →
        let validation := engine.validate context record
        validation.record.status
            = (if (named reached .failed).isEmpty then .valid else .invalid) ∧
          ((∃ outcome, validation.outcome = .ok outcome) ↔
            ∀ d ∈ declarations, d.enabled.truthy = true → ∃ text, d.name.asText = .ok text) ∧
          ((∀ name, Declaration.Spells document name → ∃ text, name.asText = .ok text) →
            ∃ outcome, validation.outcome = .ok outcome) ∧
          ∀ fault, validation.outcome = .error fault →
            ∃ problems, fault = .model "ValidationResult" problems := by
  refine ⟨_, Declaration.build_of_loaded loaded, fun context record reached came => ?_⟩
  have enabled := outcome_of_reached_iff came
  simp only [List.forall_mem_map, List.mem_filter, and_imp] at enabled
  refine ⟨status_of_reached came, enabled, fun spelled => enabled.mpr fun d member _ => ?_,
    fun fault => fault_of_reached came⟩
  rcases Declaration.name_of_loaded loaded d member with isSpelled | ⟨text, isText⟩
  · exact spelled d.name isSpelled
  · exact ⟨text, congrArg Value.asText isText⟩

/-- A rule file with one rule, on an attribute that is to be there, and the name it gives it. -/
def namedFile (name : Value) : Value :=
  .dict [(.text "rules", .dict [(.text "start", .list [.dict
    [(.text "type", .text "must_be"), (.text "name", name),
      (.text "params", .dict [(.text "present", .bool true)])]])])]

/-- The declaration in that file. -/
def namedDeclaration (name : Value) : Declaration where
  name := name
  kind := .mustBe
  field := .text "start"
  parameters := [(.text "present", .bool true)]
  severity := .text "error"
  enabled := .bool true

theorem textName_has_outcome :
    let context : Context := ⟨.empty, ⟨⟨2024, 5, 1, by decide⟩, 0, none, by decide⟩⟩
    let record : Record :=
      ⟨⟨"A-1", none, none, [("start", .text "today")], none⟩, [], [], .pending⟩
    Declaration.ofDocument (namedFile (.text "started")) = .ok [namedDeclaration (.text "started")] ∧
      ∃ engine outcome,
        build (Declaration.listValue [namedDeclaration (.text "started")]) = .ok engine ∧
          (engine.validate context record).outcome = .ok outcome ∧
          (engine.validate context record).record.status = .valid := by
  intro context record
  have loaded : Declaration.ofDocument (namedFile (.text "started"))
      = .ok [namedDeclaration (.text "started")] := by cbv
  have builds : build (Declaration.listValue [namedDeclaration (.text "started")])
      = .ok ⟨[(namedDeclaration (.text "started")).installed]⟩ := by cbv
  obtain ⟨engine, built, tells⟩ := outcome_of_loaded_iff loaded
  obtain rfl := Except.ok.inj (builds.symm.trans built)
  obtain ⟨status, told, _⟩ := tells context record [(.text "started", .passed)] (by cbv)
  obtain ⟨outcome, returned⟩ := told.mpr fun d member _ =>
    ⟨"started", List.mem_singleton.mp member ▸ rfl⟩
  exact ⟨loaded, _, outcome, built, returned, status.trans (by cbv)⟩

/-- A rule without a name passes, and the record is valid, but the run stops. -/
theorem nullName_has_no_outcome :
    let context : Context := ⟨.empty, ⟨⟨2024, 5, 1, by decide⟩, 0, none, by decide⟩⟩
    let record : Record :=
      ⟨⟨"A-1", none, none, [("start", .text "today")], none⟩, [], [], .pending⟩
    ∃ declarations engine, Declaration.ofDocument (namedFile .null) = .ok declarations ∧
      build (Declaration.listValue declarations) = .ok engine ∧
      (standings context record.subject engine.rules).outcome = .ok [(.null, .passed)] ∧
      (engine.validate context record).record.status = .valid ∧
      ¬∃ outcome, (engine.validate context record).outcome = .ok outcome := by
  intro context record
  have came : (standings context record.subject [(namedDeclaration .null).installed]).outcome
      = .ok [(.null, .passed)] := by cbv
  refine ⟨[namedDeclaration .null], ⟨[(namedDeclaration .null).installed]⟩, by cbv, by cbv, came,
    by cbv, fun returns => ?_⟩
  obtain ⟨text, told⟩ := (outcome_of_reached_iff came).mp returns _ List.mem_cons_self
  cases told

end Engine

end RecordRules
