import RecordRules.Proofs.Rule.Window

/-!
# One bound under two kinds of rule

A date may be held against a bound by a must-be rule or by a date rule. The two go different ways:
one composes a message and files it last, the other files what it finds bound by bound. For a rule
that gives one bound and no message of its own both come to one report (`Rule.limitReport`), and so
to the same verdict, entry or fault (`RuleKind.same_on_one_bound`).
-/

namespace RecordRules

variable {context : Context} {rule other : Rule} {subject : Subject} {value : Value}
  {d : Direction} {c : Collection}

namespace Rule

/-- A rule that gives one bound and no message of its own, and whose failures go to a collection
    that it names or to its usual one. -/
structure Limits (rule : Rule) (d : Direction) : Prop where
  given : rule.options.option d.text ≠ .null
  alone : ∀ entry ∈ rule.options, MustBe.isDirective entry.1 = true → entry.1 = .text d.text
  always : rule.options.option "when" = .null
  noMessage : (rule.options.option "message").truthy = false
  noBoundMessage : (rule.options.option (d.text ++ "_message")).truthy = false
  level : rule.options.option "error_level" = .null ∨
    ∃ c : Collection, rule.options.option "error_level" = .text c.text

/-- Two rules on one attribute that give a bound alike, under one name and one level. -/
structure SameLimit (rule other : Rule) (d : Direction) : Prop where
  field : other.field = rule.field
  bound : other.options.option d.text = rule.options.option d.text
  withTime : (other.options.option "time").truthy = (rule.options.option "time").truthy
  name : other.name = rule.name
  level : other.options.option "error_level" = rule.options.option "error_level"

/-- The entry for a failure, for a collection. -/
def failureReport (rule : Rule) (c : Collection) (failure : String) : Run.Report := do
  return some (← (Destination.collection c).file rule.field (.text (failure ++ ".")) rule.name)

/-- What a rule without messages of its own reports of a value that it holds against a bound. -/
def plainReport (context : Context) (rule : Rule) (subject : Subject) (value asReceived : Value)
    (d : Direction) (c : Collection) : Run.Report := do
  match ← Bound.evaluate subject context.clock value asReceived (rule.options.option d.text) d
    (rule.options.option "time").truthy with
  | none => return none
  | some failure => rule.failureReport c failure

/-- What a rule that gives one bound reports on a date. -/
def limitReport (context : Context) (rule : Rule) (subject : Subject) (value : Value)
    (d : Direction) (c : Collection) : Run.Report := do
  if ← context.registry.isDisabled rule.name then rule.reportSkipped
  else rule.plainReport context subject value (← subject.received rule.field) d c

theorem SameLimit.report_eq (same : rule.SameLimit other d) :
    limitReport context other subject value d c = limitReport context rule subject value d c := by
  unfold limitReport reportSkipped plainReport failureReport
  rw [same.field, same.bound, same.withTime, same.name]

theorem SameLimit.destination_eq (same : rule.SameLimit other d) :
    other.destination context.registry subject = rule.destination context.registry subject := by
  unfold destination Rule.level
  rw [same.name, same.level]

namespace Limits

theorem onlyBounds (limits : rule.Limits d) : MustBe.OnlyBounds rule.options where
  directives entry member directive := ⟨d, limits.alone entry member directive⟩
  always := limits.always

theorem option_eq_null_of_ne (limits : rule.Limits d) (side : Direction) (apart : side ≠ d) :
    rule.options.option side.text = .null := by
  have only : MustBe.DirectivesIn rule.options [d.text] := fun entry member directive =>
    ⟨d.text, List.mem_singleton_self _, limits.alone entry member directive⟩
  refine only.option_eq_null side.text (by cases side <;> decide) ?_
  revert apart
  cases side <;> cases d <;> decide

theorem givenBounds_eq (limits : rule.Limits d) :
    MustBe.givenBounds rule.options = [(d, rule.options.option d.text)] := by
  have given := limits.given
  cases d with
  | before =>
    have absent := limits.option_eq_null_of_ne .after (by decide)
    unfold MustBe.givenBounds
    simp only [List.filterMap_cons, List.filterMap_nil, absent]
  | after =>
    have absent := limits.option_eq_null_of_ne .before (by decide)
    unfold MustBe.givenBounds
    simp only [List.filterMap_cons, List.filterMap_nil, absent]

/-- The failures of the rule go to a collection. -/
theorem exists_routes (limits : rule.Limits d) (registry : Registry) :
    ∃ c, rule.Routes registry c :=
  rule.exists_routes_of_level limits.level registry

theorem reportFailure_eq (limits : rule.Limits d) (routes : rule.Routes context.registry c)
    (failure : String) :
    rule.reportFailure context.registry subject ((rule.options.option "message").orElse
      (.text (failure ++ "."))) = rule.failureReport c failure := by
  unfold reportFailure
  rw [Rule.destination_iff_routes.mpr routes, Value.orElse, limits.noMessage]
  rfl

theorem finding_report_eq (limits : rule.Limits d) (routes : rule.Routes context.registry c)
    (asReceived : Value) :
    (MustBe.boundFinding (MustBe.sceneOf context rule subject value) asReceived
        (rule.options.option "time").truthy [(d, rule.options.option d.text)] []
      >>= MustBe.Finding.report context rule subject)
      = rule.plainReport context subject value asReceived d c := by
  unfold plainReport
  simp only [MustBe.boundFinding, MustBe.sceneOf, bind, Except.bind]
  cases Bound.evaluate subject context.clock value asReceived (rule.options.option d.text) d
      (rule.options.option "time").truthy with
  | error e => rfl
  | ok evaluation =>
    cases evaluation with
    | none => rfl
    | some failure => exact limits.reportFailure_eq routes failure

/-- As a must-be rule, the rule composes the sentence of its bound and files it. -/
theorem mustBe_reports (limits : rule.Limits d) (subject : Subject) (value : Value)
    (routes : rule.Routes context.registry c) :
    (MustBe.run context rule subject value).Reports
      (limitReport context rule subject value d c) := by
  have reports := MustBe.run_reports context rule subject value
  suffices same : MustBe.report context rule subject value
      = limitReport context rule subject value d c by
    rwa [same] at reports
  cases disabled : context.registry.isDisabled rule.name with
  | error e =>
    unfold MustBe.report limitReport
    rw [disabled]
    rfl
  | ok off =>
    cases off with
    | true =>
      unfold MustBe.report limitReport
      rw [disabled]
      rfl
    | false =>
      rw [limits.onlyBounds.report_eq limits.given disabled, limits.givenBounds_eq]
      unfold limitReport
      rw [disabled]
      cases subject.received rule.field with
      | error e => rfl
      | ok asReceived =>
        exact limits.finding_report_eq routes asReceived

/-- Of the two bounds of the date rule, the one that is not given changes nothing. -/
theorem runBounds_eq (limits : rule.Limits d) (destination : Destination) (asReceived : Value) :
    (do
      let after ← DateRule.runBound context rule subject destination value asReceived .after
      let before ← DateRule.runBound context rule subject destination value asReceived .before
      return after && before)
      = DateRule.runBound context rule subject destination value asReceived d := by
  cases d with
  | before =>
    rw [DateRule.runBound_of_absent (limits.option_eq_null_of_ne .after (by decide)), Run.pure_bind]
    simp only [Bool.true_and]
    exact Run.bind_pure _
  | after =>
    rw [DateRule.runBound_of_absent (limits.option_eq_null_of_ne .before (by decide))]
    simp only [Run.pure_bind, Bool.and_true]
    exact Run.bind_pure _

theorem boundReport_eq (limits : rule.Limits d) (asReceived : Value) :
    DateRule.boundReport context rule subject (.collection c) value asReceived d
      = rule.plainReport context subject value asReceived d c := by
  rw [DateRule.boundReport_of_given limits.given]
  unfold DateRule.heldReport plainReport
  cases Bound.evaluate subject context.clock value asReceived (rule.options.option d.text) d
      (rule.options.option "time").truthy with
  | error e => rfl
  | ok evaluation =>
    cases evaluation with
    | none => rfl
    | some failure =>
      have own : (rule.options.option (d.text ++ "_message")).orElse (.text (failure ++ "."))
          = .text (failure ++ ".") := by
        rw [Value.orElse, limits.noBoundMessage, if_neg Bool.false_ne_true]
      exact congrArg (fun message => do
        return some (← (Destination.collection c).file rule.field message rule.name)) own

/-- As a date rule, the rule files what it finds at its bound. -/
theorem date_reports (limits : rule.Limits d) (subject : Subject)
    (routes : rule.Routes context.registry c) (isDate : value.isDate = true) :
    (DateRule.run context rule subject value).Reports
      (limitReport context rule subject value d c) := by
  have aimed : rule.destination context.registry subject = .ok (.collection c) :=
    Rule.destination_iff_routes.mpr routes
  cases disabled : context.registry.isDisabled rule.name with
  | error e =>
    unfold DateRule.run limitReport
    rw [disabled]
    exact Run.reports_stop e
  | ok off =>
    cases off with
    | true =>
      unfold DateRule.run limitReport
      rw [disabled]
      exact rule.reports_skipped
    | false =>
      cases received : subject.received rule.field with
      | error e =>
        unfold DateRule.run limitReport
        rw [disabled, received]
        exact Run.reports_stop e
      | ok asReceived =>
        rw [DateRule.run_of_date disabled received aimed isDate, limits.runBounds_eq]
        unfold limitReport
        rw [disabled, received]
        have reports := DateRule.runBound_reports context rule subject (.collection c) value
          asReceived d
        rwa [limits.boundReport_eq] at reports

end Limits

/-- What is reported is that the bound rejected the date, under the name of the rule. -/
theorem limitReport_some (routes : rule.Routes context.registry c) {filed : Collection × Entry}
    (reported : limitReport context rule subject value d c = .ok (some filed)) :
    rule.Files context.registry subject filed ∧
      ∃ asReceived failure, subject.received rule.field = .ok asReceived ∧
        Bound.evaluate subject context.clock value asReceived (rule.options.option d.text) d
          (rule.options.option "time").truthy = .ok (some failure) ∧
        filed.2.message = failure ++ "." := by
  obtain ⟨off, _, rest⟩ := ok_bind_iff.mp reported
  cases off with
  | true =>
    obtain ⟨_, _, rest⟩ := ok_bind_iff.mp rest
    obtain ⟨_, _, impossible⟩ := ok_bind_iff.mp rest
    cases impossible
  | false =>
    obtain ⟨asReceived, received, rest⟩ := ok_bind_iff.mp rest
    obtain ⟨evaluation, evaluated, rest⟩ := ok_bind_iff.mp rest
    cases evaluation with
    | none => cases rest
    | some failure =>
      obtain ⟨entry, made, same⟩ := ok_bind_iff.mp rest
      cases same
      have aimed : rule.destination context.registry subject = .ok (.collection c) :=
        Rule.destination_iff_routes.mpr routes
      obtain ⟨files, text⟩ := files_of_file aimed made
      exact ⟨files, asReceived, failure, received, evaluated, (Except.ok.inj text).symm⟩

end Rule

namespace RuleKind

/-- A must-be rule and a date rule that give the same one bound come to the same on a date, and
    leave a record the same: as it was if they pass or stop, and with one entry more if the bound
    rejects the date. -/
theorem same_on_one_bound (context : Context) (record : Record) (limits : rule.Limits d)
    (limitsToo : other.Limits d) (same : rule.SameLimit other d) (isDate : value.isDate = true) :
    let ran := mustBe.run context rule record.subject value
    let ranOther := date.run context other record.subject value
    ran.outcome = ranOther.outcome ∧ record.after ran = record.after ranOther ∧
      (ran.outcome = .ok true ∧ record.after ran = record ∨
        (∃ e, ran.outcome = .error e ∧ record.after ran = record) ∨
        ran.outcome = .ok false ∧ ∃ c entry asReceived failure,
          record.after ran = record.add c entry ∧ rule.Routes context.registry c ∧
          record.subject.received rule.field = .ok asReceived ∧
          Bound.evaluate record.subject context.clock value asReceived
            (rule.options.option d.text) d (rule.options.option "time").truthy
              = .ok (some failure) ∧
          rule.field.asText = .ok entry.name ∧ entry.message = failure ++ "." ∧
          entry.metadata = [("rule_name", rule.name)]) := by
  intro ran ranOther
  obtain ⟨c, routes⟩ := limits.exists_routes context.registry
  have routesToo : other.Routes context.registry c := by
    have aimed : other.destination context.registry record.subject = .ok (.collection c) := by
      rw [same.destination_eq]
      exact Rule.destination_iff_routes.mpr routes
    exact Rule.destination_iff_routes.mp aimed
  have reports := limits.mustBe_reports record.subject value routes
  have reportsToo := limitsToo.date_reports record.subject routesToo isDate
  rw [same.report_eq] at reportsToo
  obtain ⟨sameOutcome, sameFiled⟩ := reports.same reportsToo
  have still := Rule.changes_eq_nil limits.always
    (MustBe.writes_run context rule record.subject value).changes
  have stillToo := (DateRule.writes_run context other record.subject value).changes
  rw [record.after_of_still ran still, record.after_of_still ranOther stillToo]
  refine ⟨sameOutcome, congrArg record.addAll sameFiled, ?_⟩
  cases came : Rule.limitReport context rule record.subject value d c with
  | error e =>
    obtain ⟨nothing, stopped⟩ := reports.stops e came
    exact .inr (.inl ⟨e, stopped, congrArg record.addAll nothing⟩)
  | ok reported =>
    cases reported with
    | none =>
      obtain ⟨nothing, passed⟩ := reports.passes came
      exact .inl ⟨passed, congrArg record.addAll nothing⟩
    | some filed =>
      obtain ⟨one, failed⟩ := reports.fails filed came
      obtain ⟨files, asReceived, failure, received, rejected, text⟩ :=
        Rule.limitReport_some routes came
      exact .inr (.inr ⟨failed, filed.1, filed.2, asReceived, failure,
        congrArg record.addAll one, Rule.destination_iff_routes.mp files.aimed, received, rejected,
        files.field, text, files.named⟩)

/-- A rule on a start, which is not to come before the end of another period. -/
def afterEnd : Rule where
  field := .text "start"
  options := [(.text "after", .field (.text "end")), (.text "rule_name", .text "order")]

theorem afterEnd_limits : afterEnd.Limits .after where
  given := by
    have bound : afterEnd.options.option "after" = .field (.text "end") := by cbv
    simp [Direction.text, bound]
  alone := by
    intro entry member directive
    rcases List.mem_cons.mp member with rfl | last
    · rfl
    · obtain rfl := List.mem_singleton.mp last
      exact absurd directive (by decide)
  always := by cbv
  noMessage := by cbv
  noBoundMessage := by cbv
  level := .inl (by cbv)

/-- A start that comes too early is a warning for both kinds of a notice rule, in the same words. -/
theorem early_start_warned_by_both :
    let context : Context :=
      ⟨⟨[], [], [.text "order"]⟩, ⟨⟨2024, 6, 15, by decide⟩, 43200000000, none, by decide⟩⟩
    let start : Value := .date ⟨2024, 5, 1, by decide⟩
    let record : Record :=
      ⟨⟨"A-1", none, none, [("start", start), ("end", .date ⟨2024, 5, 31, by decide⟩)], none⟩, [],
        [], .pending⟩
    let ran := fun kind : RuleKind => kind.run context afterEnd record.subject start
    (ran .date).outcome = .ok false ∧ record.after (ran .mustBe) = record.after (ran .date) ∧
      ∃ entry, record.after (ran .mustBe) = record.add .warnings entry ∧
        entry.message = ": 2024-05-01 is not a valid value. Date cannot be before end." := by
  intro context start record ran
  have failed : (MustBe.run context afterEnd record.subject start).outcome = .ok false := by cbv
  have isDate : start.isDate = true := rfl
  obtain ⟨sameOutcome, sameRecord, came⟩ :=
    same_on_one_bound context record afterEnd_limits afterEnd_limits ⟨rfl, rfl, rfl, rfl, rfl⟩
      isDate
  refine ⟨sameOutcome.symm.trans failed, sameRecord, ?_⟩
  rcases came with ⟨passed, _⟩ | ⟨e, stopped, _⟩ | ⟨_, c, entry, _, failure, added, routes,
    received, rejected, _, text, _⟩
  · cases failed.symm.trans passed
  · cases failed.symm.trans stopped
  · have notice : context.registry.isNotice afterEnd.name = true := by cbv
    obtain rfl : c = .warnings := by
      rw [routes.usual (by cbv), notice]
      rfl
    refine ⟨entry, added, ?_⟩
    rw [text]
    have isStart : record.subject.received afterEnd.field = .ok start := by cbv
    cases received.symm.trans isStart
    have words : Bound.evaluate record.subject context.clock start start
        (afterEnd.options.option Direction.after.text) .after
        (afterEnd.options.option "time").truthy
          = .ok (some ": 2024-05-01 is not a valid value. Date cannot be before end") := by cbv
    cases rejected.symm.trans words
    rfl

end RuleKind

end RecordRules
