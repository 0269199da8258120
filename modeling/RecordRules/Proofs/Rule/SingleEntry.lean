import Mathlib
import RecordRules.Proofs.Rule.Changes
import RecordRules.Proofs.Rule.Filing

/-!
# One entry or none

A must-be rule files its entry last, and nothing that it does afterwards can stop it: an attribute
and a message that an entry has taken can be shown (`display_of_asText`). So a run that passes or
stops has filed nothing (`cautious_run`), and a run that fails has added one entry, to the collection
that the options and the registry give (`destination_iff_routes`). Of the values of a record, only
what its conditions ask of them can be changed, and that whether it passes or not
(`passed_rule_changes_tags`).
-/

namespace RecordRules

/-- The name of a collection. -/
def Collection.text : Collection → String
  | .errors => "errors"
  | .warnings => "warnings"

/-- What stands for a text can be shown. -/
theorem Value.display_of_asText {v : Value} {s : String} (isText : v.asText = .ok s) :
    ∃ shown, v.display = .ok shown := by
  cases v with
  | text t => exact ⟨t, rfl⟩
  | bytes bs => exact ⟨_, rfl⟩
  | sentinel word => exact ⟨word.text, rfl⟩
  | _ => cases isText

/-! ## Where entries go -/

namespace Rule

/-- How the collection of a rule is found: it is the one that the rule names; the errors, if what it
    names counts as false; and if it names none, the warnings for a notice rule and else the
    errors. -/
structure Routes (rule : Rule) (registry : Registry) (c : Collection) : Prop where
  usual : rule.options.option "error_level" = .null →
    c = if registry.isNotice rule.name then .warnings else .errors
  named : rule.options.option "error_level" ≠ .null →
    (rule.options.option "error_level").truthy = true →
      rule.options.option "error_level" = .text c.text
  empty : rule.options.option "error_level" ≠ .null →
    (rule.options.option "error_level").truthy = false → c = .errors

theorem level_of_absent {rule : Rule} (absent : rule.options.option "error_level" = .null)
    (registry : Registry) :
    rule.level registry = if registry.isNotice rule.name then .text "warnings" else .null := by
  unfold level
  rw [absent]

theorem level_of_given {rule : Rule} (given : rule.options.option "error_level" ≠ .null)
    (registry : Registry) : rule.level registry = rule.options.option "error_level" := by
  unfold level
  split
  · contradiction
  · rfl

end Rule

/-- Of the attributes of a record, just the two collections take entries. -/
theorem Subject.destination?_eq_collection_iff (s : Subject) (name : String) (c : Collection) :
    s.destination? name = some (.collection c) ↔ name = c.text := by
  by_cases isErrors : name = "errors"
  · subst isErrors
    cases c <;> simp [destination?, Collection.text]
  by_cases isWarnings : name = "warnings"
  · subst isWarnings
    cases c <;> simp [destination?, Collection.text]
  have elsewhere : s.destination? name ≠ some (.collection c) := by
    simp only [destination?, isErrors, isWarnings, reduceIte]
    split_ifs <;> simp
  cases c <;> simp [Collection.text, elsewhere, isErrors, isWarnings]

theorem Subject.destination_eq_collection_iff {s : Subject} {level : Value} {c : Collection} :
    s.destination level = .ok (.collection c) ↔
      level.orElse (.text "errors") = .text c.text := by
  unfold destination
  cases level.orElse (.text "errors") with
  | text name =>
    rw [Value.text.injEq, ← destination?_eq_collection_iff s]
    cases found : s.destination? name <;> simp [found]
  | _ => simp

/-- The failures of a rule go to a collection just when it is the one that is found so. -/
theorem Rule.destination_iff_routes {rule : Rule} {registry : Registry} {subject : Subject}
    {c : Collection} :
    rule.destination registry subject = .ok (.collection c) ↔ rule.Routes registry c := by
  rw [destination, Subject.destination_eq_collection_iff]
  by_cases absent : rule.options.option "error_level" = .null
  · have aimed : (rule.level registry).orElse (.text "errors") = .text c.text ↔
        c = if registry.isNotice rule.name then .warnings else .errors := by
      rw [level_of_absent absent]
      cases registry.isNotice rule.name <;> cases c <;>
        simp [Value.orElse, Value.truthy, Collection.text]
    rw [aimed]
    exact ⟨fun found => ⟨fun _ => found, absurd absent, absurd absent⟩,
      fun routes => routes.usual absent⟩
  · rw [level_of_given absent, Value.orElse]
    cases filled : (rule.options.option "error_level").truthy with
    | true =>
      rw [if_pos rfl]
      refine ⟨fun named => ⟨fun none => absurd none absent, fun _ _ => named, ?_⟩,
        fun routes => routes.named absent filled⟩
      intro _ empty
      exact absurd (empty.symm.trans filled) Bool.false_ne_true
    | false =>
      rw [if_neg Bool.false_ne_true]
      have usual : Value.text "errors" = .text c.text ↔ c = .errors := by
        cases c <;> simp [Collection.text]
      rw [usual]
      refine ⟨fun isErrors => ⟨fun none => absurd none absent, ?_, fun _ _ => isErrors⟩,
        fun routes => routes.empty absent filled⟩
      intro _ full
      exact absurd (filled.symm.trans full) Bool.false_ne_true

/-- A rule that names a collection or none has one for its failures. -/
theorem Rule.exists_routes_of_level (rule : Rule)
    (level : rule.options.option "error_level" = .null ∨
      ∃ c : Collection, rule.options.option "error_level" = .text c.text) (registry : Registry) :
    ∃ c, rule.Routes registry c := by
  rcases level with usual | ⟨c, named⟩
  · refine ⟨if registry.isNotice rule.name then .warnings else .errors, fun _ => rfl, ?_, ?_⟩
    · intro given
      exact absurd usual given
    · intro given
      exact absurd usual given
  · have filled : (rule.options.option "error_level").truthy = true := by
      rw [named]
      cases c <;> rfl
    refine ⟨c, ?_, fun _ _ => named, ?_⟩
    · intro absent
      cases absent.symm.trans named
    · intro _ empty
      cases filled.symm.trans empty

/-! ## Runs that stop -/

namespace MustBe

variable {context : Context} {rule : Rule} {subject : Subject} {value : Value}

/-- A rule that stops has filed nothing. -/
theorem cautious_run : (run context rule subject value).Cautious := by
  unfold run
  refine Run.cautious_lift_bind fun off _ => ?_
  cases off with
  | true =>
    refine Run.cautious_lift_bind fun _ _ => Run.cautious_lift_bind fun _ _ => ?_
    exact Run.cautious_trial_bind fun _ _ => Run.cautious_pure _
  | false =>
    simp only [Bool.false_eq_true, reduceIte]
    split
    · exact Run.cautious_lift_bind fun _ _ => Run.cautious_stop _
    refine Run.cautious_trial_bind fun judgement _ => ?_
    cases judgement with
    | none => exact Run.cautious_pure _
    | some message =>
      refine Run.cautious_lift_bind fun destination aimed => ?_
      refine Run.cautious_lift_bind fun entry made => ?_
      -- From here on an entry is filed; what follows only shows what the entry has taken.
      obtain ⟨files, text⟩ := files_of_file aimed made
      obtain ⟨shownField, field⟩ := Value.display_of_asText files.field
      obtain ⟨shownMessage, shown⟩ := Value.display_of_asText text
      rw [field, shown]
      exact Run.cautious_of_ok rfl

theorem filed_of_passed (passed : (run context rule subject value).outcome = .ok true) :
    (run context rule subject value).filed = [] := by
  have came := ran_of_yields (Run.yields_of_ok passed)
  generalize (run context rule subject value).filed = filed at came ⊢
  cases came with
  | disabled off => rfl
  | passed on judged => rfl

theorem filed_of_failed (failed : (run context rule subject value).outcome = .ok false) :
    ∃ entry, (run context rule subject value).filed = [entry] ∧
      rule.Files context.registry subject entry := by
  have came := ran_of_yields (Run.yields_of_ok failed)
  generalize (run context rule subject value).filed = filed at came ⊢
  cases came with
  | failed on judged files text => exact ⟨_, rfl, files⟩

/-- A must-be rule leaves a record with the values that its conditions have left, and so as it was if
    it is gentle. Otherwise it changes nothing if it passes or stops, and if it fails it adds one
    entry, for its attribute and with its name, at the end of the collection where its failures go. -/
theorem files_one_entry_or_none (context : Context) (field : String) (options : Entries)
    (record : Record) (value : Value) :
    let rule : Rule := ⟨.text field, options⟩
    let ran := run context rule record.subject value
    let left : Record := { record with subject := record.subject.changed ran.changes }
    (∃ held, rule.Holds held ∧ left.subject = Condition.reached record.subject held) ∧
    (rule.Gentle → left = record) ∧
    (ran.outcome = .ok true → record.after ran = left) ∧
    (∀ e, ran.outcome = .error e → record.after ran = left) ∧
    (ran.outcome = .ok false → ∃ c entry, record.after ran = left.add c entry ∧
      entry.name = field ∧ entry.metadata = [("rule_name", options.option "rule_name")] ∧
      rule.Routes context.registry c) := by
  intro rule ran left
  have made := (writes_run context rule record.subject value).changes
  have kept (nothing : ran.filed = []) : record.after ran = left := by
    rw [Record.after, nothing]
    rfl
  refine ⟨Rule.exists_held_of_byConditions made, fun gentle => ?_,
    fun passed => kept (filed_of_passed passed), fun e stopped => kept (cautious_run e stopped),
    fun failed => ?_⟩
  · have same : record.subject.changed ran.changes = record.subject := gentle.changed_eq made
    simp only [left, same]
  · obtain ⟨⟨c, entry⟩, filed, files⟩ := filed_of_failed failed
    refine ⟨c, entry, ?_, (Except.ok.inj files.field).symm, files.named,
      Rule.destination_iff_routes.mp files.aimed⟩
    rw [Record.after, filed]
    rfl

/-- Options that ask for a value and name a collection for failures. -/
def demanding (level : Value) : Entries :=
  [(.text "present", .bool true), (.text "rule_name", .text "start"), (.text "error_level", level)]

theorem demanding_files :
    let context : Context :=
      ⟨⟨[], [], [.text "start"]⟩, ⟨⟨2024, 5, 1, by decide⟩, 0, none, by decide⟩⟩
    let record : Record := ⟨⟨"A-1", none, none, [], none⟩, [], [], .pending⟩
    let ran := fun level => run context ⟨.text "start", demanding level⟩ record.subject .null
    (ran (.int 1)).outcome = .error (.attributeName "int") ∧
      record.after (ran (.int 1)) = record ∧
      (ran (.text "")).outcome = .ok false ∧
      ∃ entry, record.after (ran (.text "")) = record.add .errors entry := by
  intro context record ran
  have stopped : (run context ⟨.text "start", demanding (.int 1)⟩ record.subject
      .null).outcome = .error (.attributeName "int") := by cbv
  have failed : (run context ⟨.text "start", demanding (.text "")⟩ record.subject .null).outcome
      = .ok false := by cbv
  have gentle (level : Value) : Rule.Gentle ⟨.text "start", demanding level⟩ :=
    Rule.gentle_of_no_conditions (by simp [demanding, Entries.option, Entries.get?_cons_text]; rfl)
  obtain ⟨_, same, _, stops, _⟩ :=
    files_one_entry_or_none context "start" (demanding (.int 1)) record .null
  obtain ⟨_, sameToo, _, _, files⟩ :=
    files_one_entry_or_none context "start" (demanding (.text "")) record .null
  rw [same (gentle _)] at stops
  rw [sameToo (gentle _)] at files
  obtain ⟨c, entry, added, _, _, routes⟩ := files failed
  have level : (Rule.mk (.text "start") (demanding (.text ""))).options.option "error_level"
      = .text "" := by cbv
  obtain rfl : c = .errors := routes.empty (by rw [level]; simp) (by rw [level]; rfl)
  exact ⟨stopped, stops _ stopped, failed, entry, added⟩

/-- Options that ask for a value where the last of the tags counts as true. -/
def whileTagged : Entries :=
  [(.text "present", .bool true), (.text "when", .dict [(.text "tags", .method (.text "pop"))])]

/-- A rule that passes because the last of the tags counts as false has taken it. -/
theorem passed_rule_changes_tags :
    let context : Context := ⟨.empty, ⟨⟨2024, 5, 1, by decide⟩, 0, none, by decide⟩⟩
    let record : Record := ⟨⟨"A-1", none, none, [("tags", .list [.int 0])], none⟩, [], [], .pending⟩
    (run context ⟨.text "start", whileTagged⟩ record.subject .null).outcome = .ok true ∧
      (record.after (run context ⟨.text "start", whileTagged⟩ record.subject .null)).subject.raw
        = [("tags", .list [])] := by
  intro context record
  exact ⟨by cbv, by cbv⟩

end MustBe

end RecordRules
