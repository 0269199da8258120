import RecordRules.Proofs.Rule.Report

/-!
# Date rules that stop

A date rule files what it finds bound by bound, so it may stop at its second bound when it has filed
an entry for the first one; nothing takes the entry back. That is the only way in which a rule that
stops leaves anything (`DateRule.stopped_unless_interrupted`).
-/

namespace RecordRules

/-- Of two runs for one verdict the second one may stop when the first one has filed its entry. -/
theorem Run.both_stopsWith_iff {r s : Run Bool} {first second : Run.Report}
    (reports : r.Reports first) (reportsToo : s.Reports second)
    {filed : List (Collection × Entry)} {e : Fault} :
    (do
      let one ← r
      let other ← s
      return one && other : Run Bool).StopsWith filed e ↔
      (first = .error e ∧ filed = []) ∨
        second = .error e ∧ ((first = .ok none ∧ filed = []) ∨
          ∃ entry, first = .ok (some entry) ∧ filed = [entry]) := by
  have secondStops (one : Bool) (others : List (Collection × Entry)) :
      (s >>= fun other => (Pure.pure (one && other) : Run Bool)).StopsWith others e ↔
        second = .error e ∧ others = [] := by
    rw [stopsWith_bind_iff, reportsToo.stopsWith_iff]
    refine or_iff_left ?_
    rintro ⟨_, _, _, _, impossible, _⟩
    exact not_stopsWith_pure impossible
  rw [stopsWith_bind_iff, reports.stopsWith_iff]
  refine or_congr Iff.rfl ?_
  simp only [secondStops, reports.yields_iff]
  constructor
  · rintro ⟨_, _, _, (⟨passed, rfl, _⟩ | ⟨entry, failed, rfl, _⟩), ⟨stopped, rfl⟩, rfl⟩
    · exact ⟨stopped, .inl ⟨passed, rfl⟩⟩
    · exact ⟨stopped, .inr ⟨entry, failed, rfl⟩⟩
  · rintro ⟨stopped, (⟨passed, rfl⟩ | ⟨entry, failed, rfl⟩)⟩
    · exact ⟨true, [], [], .inl ⟨passed, rfl, rfl⟩, ⟨stopped, rfl⟩, rfl⟩
    · exact ⟨false, [entry], [], .inr ⟨entry, failed, rfl, rfl⟩, ⟨stopped, rfl⟩, rfl⟩

theorem Destination.file_of_texts {c : Collection} {name message ruleName : Value} {n m : String}
    (isName : name.asText = .ok n) (isMessage : message.asText = .ok m) :
    (Destination.collection c).file name message ruleName
      = .ok (c, ⟨n, m, [("rule_name", ruleName)]⟩) := by
  have made : Entry.make name message [("rule_name", ruleName)]
      = .ok ⟨n, m, [("rule_name", ruleName)]⟩ := by
    refine ok_mapError_iff.mpr (ok_map_iff.mpr ⟨(n, m), ?_, rfl⟩)
    exact Checked.both_ok_iff.mpr
      ⟨Checked.within_ok_iff.mpr isName, Checked.within_ok_iff.mpr isMessage⟩
  unfold file
  rw [made]
  rfl

namespace DateRule

variable {context : Context} {rule : Rule} {subject : Subject} {destination : Destination}
  {value asReceived : Value} {d : Direction} {c : Collection} {entry : Entry} {e : Fault}

/-- What stops a rule at one of its bounds: that the bound cannot be evaluated, or that it rejects
    the date and no entry can be made of that. -/
inductive BoundStopped (context : Context) (rule : Rule) (subject : Subject)
    (destination : Destination) (value asReceived : Value) (d : Direction) (e : Fault) : Prop where
  | evaluating (given : rule.options.option d.text ≠ .null)
      (stopped : Bound.evaluate subject context.clock value asReceived
        (rule.options.option d.text) d (rule.options.option "time").truthy = .error e) :
      BoundStopped context rule subject destination value asReceived d e
  | filing {failure : String} (given : rule.options.option d.text ≠ .null)
      (rejected : Bound.evaluate subject context.clock value asReceived
        (rule.options.option d.text) d (rule.options.option "time").truthy = .ok (some failure))
      (unmade : destination.file rule.field
        ((rule.options.option (d.text ++ "_message")).orElse (.text (failure ++ ".")))
          rule.name = .error e) :
      BoundStopped context rule subject destination value asReceived d e

theorem boundReport_error_iff :
    boundReport context rule subject destination value asReceived d = .error e ↔
      BoundStopped context rule subject destination value asReceived d e := by
  by_cases absent : rule.options.option d.text = .null
  · constructor
    · intro stopped
      unfold boundReport at stopped
      rw [absent] at stopped
      cases stopped
    · rintro (⟨given, _⟩ | ⟨given, _, _⟩)
      · exact absurd absent given
      · exact absurd absent given
  · rw [boundReport_of_given absent]
    unfold heldReport
    rw [error_bind_iff]
    constructor
    · rintro (stopped | ⟨evaluation, evaluated, stopped⟩)
      · exact .evaluating absent stopped
      · cases evaluation with
        | none => cases stopped
        | some failure =>
          rcases error_bind_iff.mp stopped with unmade | ⟨_, _, impossible⟩
          · exact .filing absent evaluated unmade
          · cases impossible
    · rintro (⟨_, stopped⟩ | ⟨_, rejected, unmade⟩)
      · exact .inl stopped
      · exact .inr ⟨_, rejected, error_bind_iff.mpr (.inl unmade)⟩

/-- A bound that rejects a date is reported with its entry. -/
theorem boundReport_of_boundRan
    (ran : BoundRan context rule subject value asReceived d [(c, entry)] false) :
    boundReport context rule subject (.collection c) value asReceived d
      = .ok (some (c, entry)) := by
  cases ran with
  | @rejected failure _ given evaluated files text =>
    have made : (Destination.collection c).file rule.field
        ((rule.options.option (d.text ++ "_message")).orElse (.text (failure ++ "."))) rule.name
          = .ok (c, entry) := by
      rw [Destination.file_of_texts files.field text, ← files.named]
    rw [boundReport_of_given given, heldReport]
    refine ok_bind_iff.mpr ⟨_, evaluated, ?_⟩
    exact ok_bind_iff.mpr ⟨_, made, rfl⟩

/-- A rule that has filed an entry because a date comes too early, and then stops at the bound that
    it is to come before. -/
structure Interrupted (context : Context) (rule : Rule) (subject : Subject)
    (value asReceived : Value) (c : Collection) (entry : Entry) (e : Fault) : Prop where
  isDate : value.isDate = true
  on : context.registry.isDisabled rule.name = .ok false
  received : subject.received rule.field = .ok asReceived
  routes : rule.Routes context.registry c
  rejected : BoundRan context rule subject value asReceived .after [(c, entry)] false
  stopped : BoundStopped context rule subject (.collection c) value asReceived .before e

theorem Interrupted.stopsWith
    (interrupted : Interrupted context rule subject value asReceived c entry e) :
    (run context rule subject value).StopsWith [(c, entry)] e := by
  obtain ⟨isDate, on, received, routes, rejected, stopped⟩ := interrupted
  rw [run_of_date on received (Rule.destination_iff_routes.mpr routes) isDate,
    Run.both_stopsWith_iff (runBound_reports ..) (runBound_reports ..)]
  exact .inr ⟨boundReport_error_iff.mpr stopped, .inr ⟨_, boundReport_of_boundRan rejected, rfl⟩⟩

theorem cautious_runUnread : (runUnread rule destination asReceived).Cautious := by
  unfold runUnread
  split
  · exact Run.cautious_pure _
  · refine Run.cautious_lift_bind fun shown _ => Run.cautious_lift_bind fun entry _ => ?_
    exact Run.cautious_of_ok rfl

/-- A rule that does not come to hold a date against its bounds stops without a trace. -/
theorem cautious_of_not_held
    (notHeld : ∀ asReceived destination, context.registry.isDisabled rule.name = .ok false →
      subject.received rule.field = .ok asReceived →
      rule.destination context.registry subject = .ok destination → value.isDate = false) :
    (run context rule subject value).Cautious := by
  unfold run
  refine Run.cautious_lift_bind fun off known => ?_
  cases off with
  | true =>
    refine Run.cautious_lift_bind fun _ _ => Run.cautious_lift_bind fun _ _ => ?_
    exact Run.cautious_trial_bind fun _ _ => Run.cautious_pure _
  | false =>
    simp only [Bool.false_eq_true, reduceIte]
    refine Run.cautious_lift_bind fun asReceived received => ?_
    refine Run.cautious_lift_bind fun destination aimed => ?_
    split
    · exact cautious_runUnread
    · rw [notHeld asReceived destination known received aimed]
      exact Run.cautious_pure _

/-- A rule that stops has filed nothing unless it was interrupted between its bounds. -/
theorem filed_of_stopped (stopped : (run context rule subject value).outcome = .error e) :
    (run context rule subject value).filed = [] ∨
      ∃ asReceived c entry, Interrupted context rule subject value asReceived c entry e := by
  by_cases held : ∃ asReceived destination, context.registry.isDisabled rule.name = .ok false ∧
      subject.received rule.field = .ok asReceived ∧
      rule.destination context.registry subject = .ok destination ∧ value.isDate = true
  · obtain ⟨asReceived, destination, on, received, aimed, isDate⟩ := held
    have after := runBound_reports context rule subject destination value asReceived .after
    have before := runBound_reports context rule subject destination value asReceived .before
    have stopsWith : (run context rule subject value).StopsWith
        (run context rule subject value).filed e := ⟨rfl, stopped⟩
    generalize (run context rule subject value).filed = filed at stopsWith ⊢
    rw [run_of_date on received aimed isDate, Run.both_stopsWith_iff after before] at stopsWith
    obtain ⟨_, nothing⟩ | ⟨stoppedBefore, ⟨_, nothing⟩ | ⟨⟨c, entry⟩, rejected, _⟩⟩ := stopsWith
    · exact .inl nothing
    · exact .inl nothing
    · -- An entry that is filed tells where it went, so the rule goes to a collection.
      have ran := boundRan_of_yields aimed (after.fails _ rejected)
      obtain ⟨files, _⟩ := RuleKind.filing_of_bound ran
      have aimedThere : rule.destination context.registry subject = .ok (.collection c) :=
        (files _ List.mem_cons_self).aimed
      cases aimed.symm.trans aimedThere
      exact .inr ⟨asReceived, c, entry, isDate, on, received,
        Rule.destination_iff_routes.mp aimedThere, ran, boundReport_error_iff.mp stoppedBefore⟩
  · left
    refine cautious_of_not_held ?_ e stopped
    intro asReceived destination on received aimed
    by_contra isDate
    exact held ⟨asReceived, destination, on, received, aimed, by simpa using isDate⟩

/-- A date rule that stops leaves a record as it was, unless it was interrupted between its bounds.
    Then it has added the entry for the first bound, and changed nothing else of the record. -/
theorem stopped_unless_interrupted (context : Context) (rule : Rule) (record : Record)
    (value : Value) :
    let ran := run context rule record.subject value
    (∀ e, ran.outcome = .error e → record.after ran = record ∨ ∃ asReceived c entry,
      Interrupted context rule record.subject value asReceived c entry e) ∧
    ∀ asReceived c entry e, Interrupted context rule record.subject value asReceived c entry e →
      ran.outcome = .error e ∧ record.after ran = record.add c entry := by
  intro ran
  rw [record.after_of_still ran (writes_run context rule record.subject value).changes]
  refine ⟨?_, ?_⟩
  · intro e stopped
    rcases filed_of_stopped stopped with nothing | interrupted
    · exact .inl (congrArg record.addAll nothing)
    · exact .inr interrupted
  · intro asReceived c entry e interrupted
    obtain ⟨filed, stopped⟩ := interrupted.stopsWith
    exact ⟨stopped, congrArg record.addAll filed⟩

/-- A start before the year is rejected; that the end of the period does not read as a date stops
    the rule after that, and the entry stays. -/
theorem early_start_stays :
    let context : Context := ⟨.empty, ⟨⟨2024, 6, 15, by decide⟩, 43200000000, none, by decide⟩⟩
    let start : Value := .date ⟨2023, 12, 31, by decide⟩
    let rule : Rule := ⟨.text "start", [(.text "after", .date ⟨2024, 1, 1, by decide⟩),
      (.text "before", .field (.text "end"))]⟩
    let record : Record :=
      ⟨⟨"R1", none, none, [("start", start), ("end", .text "soon")], none⟩, [], [], .pending⟩
    (run context rule record.subject start).outcome = .error (.boundText "soon") ∧
      (record.after (run context rule record.subject start)).errors ≠ record.errors := by
  intro context start rule record
  have left : (record.after (run context rule record.subject start)).errors = [⟨"start",
      ": 2023-12-31 is not a valid value. Date cannot be before 2024-01-01.",
      [("rule_name", .null)]⟩] := by cbv
  refine ⟨by cbv, ?_⟩
  rw [left]
  exact List.cons_ne_nil _ _

/-- What is no date stops a rule as a bound: after the entry for a start that is too early, and
    without a trace if the start is late enough. -/
theorem no_date_interrupts :
    let context : Context := ⟨.empty, ⟨⟨2024, 6, 15, by decide⟩, 43200000000, none, by decide⟩⟩
    let rule : Rule := ⟨.text "start", [(.text "after", .date ⟨2024, 1, 1, by decide⟩),
      (.text "before", .int 5), (.text "after_message", .text "is too early")]⟩
    let record := fun start : Value =>
      (⟨⟨"A-1", none, none, [("start", start)], none⟩, [], [], .pending⟩ : Record)
    let early : Value := .date ⟨2023, 12, 31, by decide⟩
    let late : Value := .date ⟨2024, 2, 1, by decide⟩
    (record early).after (run context rule (record early).subject early)
        = (record early).add .errors ⟨"start", "is too early", [("rule_name", .null)]⟩ ∧
      (run context rule (record late).subject late).outcome = .error (.bound "5") ∧
      (record late).after (run context rule (record late).subject late) = record late := by
  intro context rule record early late
  have given (d : Direction) : rule.options.option d.text ≠ .null := by
    cases d with
    | before =>
      have bound : rule.options.option "before" = .int 5 := by cbv
      simp [Direction.text, bound]
    | after =>
      have bound : rule.options.option "after" = .date ⟨2024, 1, 1, by decide⟩ := by cbv
      simp [Direction.text, bound]
  obtain ⟨_, leaves⟩ := stopped_unless_interrupted context rule (record early) early
  obtain ⟨stops, _⟩ := stopped_unless_interrupted context rule (record late) late
  have stopped : (run context rule (record late).subject late).outcome = .error (.bound "5") := by
    cbv
  refine ⟨(leaves early .errors _ (.bound "5") ?_).2, stopped, ?_⟩
  · have aimed : rule.destination context.registry (record early).subject
        = .ok (.collection .errors) := by cbv
    have evaluated : Bound.evaluate (record early).subject context.clock early early
        (rule.options.option Direction.after.text) .after (rule.options.option "time").truthy
          = .ok (some ": 2023-12-31 is not a valid value. Date cannot be before 2024-01-01") := by
      cbv
    exact ⟨rfl, by cbv, by cbv, Rule.destination_iff_routes.mp aimed,
      .rejected (given .after) evaluated ⟨aimed, rfl, by cbv⟩ (by cbv),
      .evaluating (given .before) (by cbv)⟩
  · rcases stops _ stopped with same | ⟨asReceived, c, entry, interrupted⟩
    · exact same
    · have isLate : (record late).subject.received rule.field = .ok late := by cbv
      cases interrupted.received.symm.trans isLate
      have accepted : Bound.evaluate (record late).subject context.clock late late
          (rule.options.option Direction.after.text) .after (rule.options.option "time").truthy
            = .ok none := by cbv
      cases interrupted.rejected with
      | rejected _ evaluated _ _ => cases evaluated.symm.trans accepted

end DateRule

end RecordRules
