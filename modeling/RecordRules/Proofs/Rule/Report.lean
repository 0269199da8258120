import RecordRules.Proofs.Record.Filing
import RecordRules.Proofs.Rule.Placing
import RecordRules.Proofs.Rule.SingleEntry

/-!
# What runs report

A run that files at most one entry, and files it as the last thing that can stop, is told by one
evaluation: it passes if this comes to nothing, and fails with the entry that it comes to otherwise
(`Run.Reports`). A must-be rule runs so (`MustBe.run_reports`), and so does a date rule against each
of its bounds (`DateRule.runBound_reports`). Two runs with one report have done the same.
-/

namespace RecordRules

variable {α β : Type}

namespace Run

/-- An entry for a collection, if an evaluation comes to one. -/
abbrev Report := Except Fault (Option (Collection × Entry))

/-- A run that does what a report says: it passes on nothing, fails with an entry that it files, and
    stops with a fault, having filed nothing. -/
structure Reports (r : Run Bool) (report : Report) : Prop where
  passes : report = .ok none → r.Yields [] true
  fails : ∀ entry, report = .ok (some entry) → r.Yields [entry] false
  stops : ∀ e, report = .error e → r.StopsWith [] e

theorem reports_pure : (Pure.pure true : Run Bool).Reports (.ok none) where
  passes _ := ⟨rfl, rfl⟩
  fails _ came := by cases came
  stops _ came := by cases came

theorem reports_stop (e : Fault) : (stop e : Run Bool).Reports (.error e) where
  passes came := by cases came
  fails _ came := by cases came
  stops _ came := by
    cases came
    exact ⟨rfl, rfl⟩

theorem reports_lift_bind {outcome : Except Fault α} {next : α → Run Bool} {report : α → Report}
    (later : ∀ a, outcome = .ok a → (next a).Reports (report a)) :
    ((liftM outcome : Run α) >>= next).Reports (outcome >>= report) := by
  cases outcome with
  | error e => exact reports_stop e
  | ok a => exact later a rfl

theorem reports_trial_bind {t : Trial α} {next : α → Run Bool} {report : α → Report}
    (later : ∀ a, t.outcome = .ok a → (next a).Reports (report a)) :
    ((liftM t : Run α) >>= next).Reports (t.outcome >>= report) := by
  have bound : ((liftM t : Run α) >>= next) = bind ⟨[], t.notes, t.changes, t.outcome⟩ next := rfl
  rw [bound]
  cases came : t.outcome with
  | error e =>
    -- The notes of the trial stay, and are no part of a report.
    refine ⟨?_, ?_, ?_⟩
    · intro isOk
      cases isOk
    · intro entry isOk
      cases isOk
    · intro e' isError
      cases isError
      exact ⟨rfl, rfl⟩
  | ok a =>
    have rest := later a came
    refine ⟨?_, ?_, ?_⟩
    · intro passed
      simpa [bind, Yields] using rest.passes passed
    · intro entry failed
      simpa [bind, Yields] using rest.fails entry failed
    · intro e stopped
      simpa [bind, StopsWith] using rest.stops e stopped

/-- A run that files an entry once it is made, and cannot stop after that. -/
theorem reports_file {made : Except Fault (Collection × Entry)} {next : Unit → Run Bool}
    (later : ∀ entry, made = .ok entry → (next ()).Yields [] false) :
    ((liftM made : Run (Collection × Entry)) >>= fun entry => file entry >>= next).Reports
      (made >>= fun entry => .ok (some entry)) := by
  refine reports_lift_bind fun entry isMade => ?_
  obtain ⟨filesNothing, fails⟩ := later entry isMade
  refine ⟨?_, ?_, ?_⟩
  · intro isNone
    cases isNone
  · intro other same
    cases same
    exact yields_file_bind_iff.mpr ⟨[], ⟨filesNothing, fails⟩, rfl⟩
  · intro e isError
    cases isError

theorem pure_bind (a : α) (next : α → Run β) : ((Pure.pure a : Run α) >>= next) = next a := rfl

theorem bind_pure (r : Run α) : (r >>= Pure.pure) = r := by
  show bind r pure = r
  obtain ⟨filed, notes, changes, outcome⟩ := r
  cases outcome <;> simp [bind, pure]

/-- Runs that report the same file the same and come to the same. -/
theorem Reports.same {r s : Run Bool} {report : Report} (first : r.Reports report)
    (second : s.Reports report) : r.outcome = s.outcome ∧ r.filed = s.filed := by
  cases report with
  | error e =>
    obtain ⟨filed, stopped⟩ := first.stops e rfl
    obtain ⟨filedToo, stoppedToo⟩ := second.stops e rfl
    exact ⟨stopped.trans stoppedToo.symm, filed.trans filedToo.symm⟩
  | ok came =>
    cases came with
    | none =>
      obtain ⟨filed, passed⟩ := first.passes rfl
      obtain ⟨filedToo, passedToo⟩ := second.passes rfl
      exact ⟨passed.trans passedToo.symm, filed.trans filedToo.symm⟩
    | some entry =>
      obtain ⟨filed, failed⟩ := first.fails entry rfl
      obtain ⟨filedToo, failedToo⟩ := second.fails entry rfl
      exact ⟨failed.trans failedToo.symm, filed.trans filedToo.symm⟩

/-- What a run came to tells its report. -/
theorem Reports.passed_iff {r : Run Bool} {report : Report} (reports : r.Reports report) :
    r.outcome = .ok true ↔ report = .ok none := by
  constructor
  · intro passed
    cases report with
    | error e => cases passed.symm.trans (reports.stops e rfl).2
    | ok came =>
      cases came with
      | none => rfl
      | some entry => cases passed.symm.trans (reports.fails entry rfl).2
  · intro came
    exact (reports.passes came).2

theorem Reports.failed_iff {r : Run Bool} {report : Report} (reports : r.Reports report) :
    r.outcome = .ok false ↔ ∃ entry, report = .ok (some entry) := by
  constructor
  · intro failed
    cases report with
    | error e => cases failed.symm.trans (reports.stops e rfl).2
    | ok came =>
      cases came with
      | none => cases failed.symm.trans (reports.passes rfl).2
      | some entry => exact ⟨entry, rfl⟩
  · rintro ⟨entry, came⟩
    exact (reports.fails entry came).2

theorem Reports.stopped_iff {r : Run Bool} {report : Report} (reports : r.Reports report)
    {e : Fault} : r.outcome = .error e ↔ report = .error e := by
  constructor
  · intro stopped
    cases report with
    | error e' =>
      cases stopped.symm.trans (reports.stops e' rfl).2
      rfl
    | ok came =>
      cases came with
      | none => cases stopped.symm.trans (reports.passes rfl).2
      | some entry => cases stopped.symm.trans (reports.fails entry rfl).2
  · intro came
    exact (reports.stops e came).2

theorem Reports.yields_iff {r : Run Bool} {report : Report} (reports : r.Reports report)
    {filed : List (Collection × Entry)} {verdict : Bool} :
    r.Yields filed verdict ↔ (report = .ok none ∧ filed = [] ∧ verdict = true) ∨
      ∃ entry, report = .ok (some entry) ∧ filed = [entry] ∧ verdict = false := by
  constructor
  · rintro ⟨rfl, came⟩
    cases verdict with
    | true =>
      have reported := reports.passed_iff.mp came
      exact .inl ⟨reported, (reports.passes reported).1, rfl⟩
    | false =>
      obtain ⟨entry, reported⟩ := reports.failed_iff.mp came
      exact .inr ⟨entry, reported, (reports.fails entry reported).1, rfl⟩
  · rintro (⟨reported, rfl, rfl⟩ | ⟨entry, reported, rfl, rfl⟩)
    · exact reports.passes reported
    · exact reports.fails entry reported

theorem Reports.stopsWith_iff {r : Run Bool} {report : Report} (reports : r.Reports report)
    {filed : List (Collection × Entry)} {e : Fault} :
    r.StopsWith filed e ↔ report = .error e ∧ filed = [] := by
  constructor
  · rintro ⟨rfl, stopped⟩
    have reported := reports.stopped_iff.mp stopped
    exact ⟨reported, (reports.stops e reported).1⟩
  · rintro ⟨reported, rfl⟩
    exact reports.stops e reported

end Run

/-- An entry that is made has the attribute and the message as texts. -/
theorem Destination.texts_of_file {destination : Destination} {name message ruleName : Value}
    {filed : Collection × Entry}
    (made : destination.file name message ruleName = .ok filed) :
    name.asText = .ok filed.2.name ∧ message.asText = .ok filed.2.message := by
  cases destination with
  | collection c =>
    obtain ⟨entry, isEntry, same⟩ := ok_bind_iff.mp made
    obtain rfl := ok_pure_iff.mp same
    obtain ⟨isName, isMessage, _⟩ := make_ok isEntry
    exact ⟨isName, isMessage⟩
  | set => simp [Destination.file] at made
  | model => simp [Destination.file] at made
  | other kind => simp [Destination.file] at made

/-- What a disabled rule reports: nothing, once its name and its attribute have been shown. -/
def Rule.reportSkipped (rule : Rule) : Run.Report := do
  let _ ← rule.name.display
  let _ ← rule.field.display
  return none

theorem Rule.reports_skipped (rule : Rule) :
    Run.Reports (do
      let text := "Rule '" ++ (← rule.name.display) ++ "' is disabled, skipping "
        ++ (← rule.field.display)
      Trial.debug text []
      return true) rule.reportSkipped := by
  refine Run.reports_lift_bind fun name _ => Run.reports_lift_bind fun field _ => ?_
  exact Run.reports_trial_bind fun _ _ => Run.reports_pure

/-- What a rule that fails with a message reports: its entry. -/
def Rule.reportFailure (rule : Rule) (registry : Registry) (subject : Subject) (message : Value) :
    Run.Report := do
  let destination ← rule.destination registry subject
  return some (← destination.file rule.field message rule.name)

theorem Rule.reportFailure_ne_none {rule : Rule} {registry : Registry} {subject : Subject}
    {message : Value} : rule.reportFailure registry subject message ≠ .ok none := by
  intro isNone
  obtain ⟨destination, _, rest⟩ := ok_bind_iff.mp isNone
  obtain ⟨entry, _, same⟩ := ok_bind_iff.mp rest
  cases same

/-- What a rule reports that has been judged: the message that it fails with, if it fails. -/
def Rule.reportJudged (rule : Rule) (registry : Registry) (subject : Subject) :
    Option Value → Run.Report
  | none => .ok none
  | some message => rule.reportFailure registry subject message

namespace MustBe

/-- What a rule reports on a value. -/
def report (context : Context) (rule : Rule) (subject : Subject) (value : Value) : Run.Report := do
  if ← context.registry.isDisabled rule.name then rule.reportSkipped
  else if !(rule.options.any fun (key, _) => isDirective key) then
    throw (.noDirective (← rule.field.display))
  else
    rule.reportJudged context.registry subject
      (← (judge rule.options (sceneOf context rule subject value)).outcome)

/-- An enabled rule with a directive reports what it is judged to be. -/
theorem report_of_enabled {context : Context} {rule : Rule} {subject : Subject} {value : Value}
    (on : context.registry.isDisabled rule.name = .ok false)
    (directed : (rule.options.any fun (key, _) => isDirective key) = true) :
    report context rule subject value
      = (judge rule.options (sceneOf context rule subject value)).outcome
        >>= rule.reportJudged context.registry subject := by
  unfold report
  rw [on, directed]
  rfl

theorem run_reports (context : Context) (rule : Rule) (subject : Subject) (value : Value) :
    (run context rule subject value).Reports (report context rule subject value) := by
  unfold run report
  refine Run.reports_lift_bind fun off _ => ?_
  cases off with
  | true => exact rule.reports_skipped
  | false =>
    simp only [Bool.false_eq_true, reduceIte]
    split
    · exact Run.reports_lift_bind fun field _ => Run.reports_stop _
    · refine Run.reports_trial_bind fun judgement _ => ?_
      cases judgement with
      | none => exact Run.reports_pure
      | some message =>
        refine Run.reports_lift_bind fun destination _ => Run.reports_file fun entry made => ?_
        -- What is left to do only shows what the entry has taken.
        obtain ⟨isName, isMessage⟩ := Destination.texts_of_file made
        obtain ⟨shownField, field⟩ := Value.display_of_asText isName
        obtain ⟨shownMessage, message⟩ := Value.display_of_asText isMessage
        rw [field, message]
        exact ⟨rfl, rfl⟩

variable {context : Context} {rule : Rule} {subject : Subject} {value : Value}

/-- An enabled rule that is judged without a message passes. -/
theorem passed_of_judged (on : context.registry.isDisabled rule.name = .ok false)
    (directed : (rule.options.any fun (key, _) => isDirective key) = true)
    (judged : (judge rule.options (sceneOf context rule subject value)).outcome = .ok none) :
    (run context rule subject value).outcome = .ok true := by
  refine (run_reports context rule subject value).passed_iff.mpr ?_
  rw [report_of_enabled on directed, judged]
  rfl

/-- An enabled rule that is judged with a text fails, if its failures go to a collection. -/
theorem failed_of_judged (on : context.registry.isDisabled rule.name = .ok false)
    (directed : (rule.options.any fun (key, _) => isDirective key) = true)
    (field : ∃ name, rule.field = .text name)
    (level : rule.options.option "error_level" = .null ∨
      ∃ c : Collection, rule.options.option "error_level" = .text c.text) {s : String}
    (judged : (judge rule.options (sceneOf context rule subject value)).outcome
      = .ok (some (.text s))) :
    (run context rule subject value).outcome = .ok false := by
  obtain ⟨c, routes⟩ := rule.exists_routes_of_level level context.registry
  obtain ⟨name, isName⟩ := field
  refine (run_reports context rule subject value).failed_iff.mpr ?_
  rw [report_of_enabled on directed, judged]
  change ∃ entry, rule.reportFailure context.registry subject (.text s) = .ok (some entry)
  unfold Rule.reportFailure
  rw [Rule.destination_iff_routes.mpr routes, isName]
  exact ⟨_, rfl⟩

end MustBe

namespace DateRule

/-- What holding a date against a bound that is given reports. -/
def heldReport (context : Context) (rule : Rule) (subject : Subject) (destination : Destination)
    (value asReceived : Value) (d : Direction) : Run.Report := do
  match ← Bound.evaluate subject context.clock value asReceived (rule.options.option d.text) d
    (rule.options.option "time").truthy with
  | none => return none
  | some failure =>
    return some (← destination.file rule.field
      ((rule.options.option (d.text ++ "_message")).orElse (.text (failure ++ "."))) rule.name)

/-- What holding a date against one bound reports, nothing if it is not given. -/
def boundReport (context : Context) (rule : Rule) (subject : Subject) (destination : Destination)
    (value asReceived : Value) (d : Direction) : Run.Report :=
  match rule.options.option d.text with
  | .null => .ok none
  | _ => heldReport context rule subject destination value asReceived d

theorem boundReport_of_given {context : Context} {rule : Rule} {subject : Subject}
    {destination : Destination} {value asReceived : Value} {d : Direction}
    (given : rule.options.option d.text ≠ .null) :
    boundReport context rule subject destination value asReceived d
      = heldReport context rule subject destination value asReceived d := by
  unfold boundReport
  split
  next absent => exact absurd absent given
  next => rfl

theorem runBound_reports (context : Context) (rule : Rule) (subject : Subject)
    (destination : Destination) (value asReceived : Value) (d : Direction) :
    (runBound context rule subject destination value asReceived d).Reports
      (boundReport context rule subject destination value asReceived d) := by
  unfold runBound
  split
  next absent =>
    unfold boundReport
    rw [absent]
    exact Run.reports_pure
  next given =>
    rw [boundReport_of_given given]
    refine Run.reports_lift_bind fun evaluation _ => ?_
    cases evaluation with
    | none => exact Run.reports_pure
    | some failure =>
      refine Run.reports_file fun entry made => ?_
      obtain ⟨isName, _⟩ := Destination.texts_of_file made
      obtain ⟨shownField, field⟩ := Value.display_of_asText isName
      rw [field]
      exact ⟨rfl, rfl⟩

theorem runBound_of_absent {context : Context} {rule : Rule} {subject : Subject}
    {destination : Destination} {value asReceived : Value} {d : Direction}
    (absent : rule.options.option d.text = .null) :
    runBound context rule subject destination value asReceived d = pure true := by
  unfold runBound
  rw [absent]

/-- An enabled rule holds a date against both of its bounds. -/
theorem run_of_date {context : Context} {rule : Rule} {subject : Subject}
    {destination : Destination} {value asReceived : Value}
    (on : context.registry.isDisabled rule.name = .ok false)
    (received : subject.received rule.field = .ok asReceived)
    (aimed : rule.destination context.registry subject = .ok destination)
    (isDate : value.isDate = true) :
    run context rule subject value = (do
      let after ← runBound context rule subject destination value asReceived .after
      let before ← runBound context rule subject destination value asReceived .before
      return after && before) := by
  unfold run
  rw [on, received, aimed]
  simp only [Run.lift_ok_bind, Bool.false_eq_true, reduceIte]
  cases value with
  | date day => rfl
  | moment m => rfl
  | _ => cases isDate

end DateRule

end RecordRules
