import RecordRules.Proofs.Rule.Directives
import RecordRules.Proofs.Rule.Report
import RecordRules.Proofs.Rule.WholeDays

/-!
# Date windows

The two bounds of a must-be rule are two ways to pass. A rule whose only directives are its bounds
makes one check, and makes it in order: it passes at the first bound that accepts the value
(`boundFinding_cons_satisfied_iff`), and fails with the sentence of the last bound if all reject it.
So a rule with a window in which there is any time at all rejects no date (`admits_either_side`).
-/

namespace RecordRules

namespace Bound

variable {value resolved earliest latest : Value} {d : Direction}

/-- That there is time between the bounds of a window: the day after which a value is to come is no
    later than the one before which it is to come. Where the time of day counts, that is said of two
    points of time in one timezone. -/
def InOrder (withTime : Bool) (earliest latest : Value) : Prop :=
  ∃ x y, earliest.moment? = some x ∧ latest.moment? = some y ∧
    if withTime then x.offset = y.offset ∧ x.wall ≤ y.wall else x.date.ordinal ≤ y.date.ordinal

theorem admits_of_wall {x y : Moment} (time : value.moment? = some x)
    (boundTime : resolved.moment? = some y) (allowed : d.Allows x.wall (y.wall + x.lead y)) :
    admits true d value resolved = true := by
  cases resolved with
  | moment m =>
    cases boundTime
    exact (admits_moments_iff time).mpr ((Moment.allows_beside_iff d x y).mpr allowed)
  | date day =>
    -- A day is a bound for days, also where the time of day counts.
    cases boundTime
    rw [admits_days_iff (Value.day?_of_moment? time) rfl (.inr rfl)]
    have noLead : x.lead day.midnight = 0 := by
      unfold Moment.lead
      cases x.offset <;> rfl
    rw [noLead, Int.add_zero] at allowed
    exact Moment.allows_ordinal (y := day.midnight) allowed
  | _ => cases boundTime

/-- A date is on the right side of one of the bounds of a window in which there is time. -/
theorem admits_either_side {withTime : Bool} (isDate : value.isDate = true)
    (inOrder : InOrder withTime earliest latest) :
    admits withTime .before value latest = true ∨ admits withTime .after value earliest = true := by
  obtain ⟨x, y, starts, ends, order⟩ := inOrder
  obtain ⟨v, time⟩ := Value.exists_moment isDate
  cases withTime with
  | false =>
    rw [admits_days_iff (Value.day?_of_moment? time) (Value.day?_of_moment? ends) (.inl rfl),
      admits_days_iff (Value.day?_of_moment? time) (Value.day?_of_moment? starts) (.inl rfl)]
    simp only [Bool.false_eq_true, reduceIte] at order
    simp only [Direction.Allows]
    omega
  | true =>
    simp only [reduceIte] at order
    obtain ⟨zone, order⟩ := order
    have sameLead : v.lead x = v.lead y := by
      unfold Moment.lead
      rw [zone]
    by_cases early : v.wall ≤ y.wall + v.lead y
    · exact .inl (admits_of_wall time ends early)
    · right
      refine admits_of_wall time starts ?_
      simp only [Direction.Allows]
      omega

end Bound

namespace MustBe

/-- Options without directives other than bounds, and without conditions. -/
structure OnlyBounds (options : Entries) : Prop where
  directives : ∀ entry ∈ options, isDirective entry.1 = true →
    ∃ d : Direction, entry.1 = .text d.text
  always : options.option "when" = .null

/-- What a finding leaves of the message of a rule. -/
def Finding.message (options : Entries) : Finding → Option Value
  | .satisfied => none
  | .unsatisfied edits =>
    some ((options.option "message").orElse
      (.text (edits.foldl Message.edit Message.start).finish))

namespace OnlyBounds

variable {options : Entries}

theorem directivesIn (only : OnlyBounds options) : DirectivesIn options ["before", "after"] := by
  intro entry member directive
  obtain ⟨d, isBound⟩ := only.directives entry member directive
  exact ⟨d.text, by cases d <;> decide, isBound⟩

/-- The bounds are all that such a rule checks. -/
theorem checks_eq (only : OnlyBounds options) :
    checks options = [.window (givenBounds options) (options.option "time").truthy] := by
  have directives := only.directivesIn
  unfold checks
  rw [directives.option_eq_null "blank" (by decide) (by decide),
    directives.option_eq_null "present" (by decide) (by decide),
    directives.ifGiven_eq_nil "one_of" _ (by decide) (by decide),
    directives.ifGiven_eq_nil "not_any_of" _ (by decide) (by decide),
    directives.ifGiven_eq_nil "only_from" _ (by decide) (by decide),
    directives.comparisons_eq_nil (fun c => by cases c <;> decide), ifGiven, only.always]
  rfl

theorem valueLists_eq (only : OnlyBounds options) : valueLists options = .ok "" :=
  only.directivesIn.valueLists_eq (by decide) (by decide) (by decide)

/-- Such a rule is judged by what its bounds find. -/
theorem judge_outcome (only : OnlyBounds options) (scene : Scene) :
    (judge options scene).outcome = (do
      let asReceived ← scene.subject.received scene.field
      let finding ← boundFinding scene asReceived (options.option "time").truthy
        (givenBounds options) []
      return finding.message options) := by
  unfold judge
  rw [only.checks_eq, only.valueLists_eq]
  simp only [runChecks, Check.run, Trial.outcome_bind, Trial.outcome_lift]
  cases scene.subject.received scene.field with
  | error e => rfl
  | ok asReceived =>
    dsimp only [bind, Except.bind]
    cases boundFinding scene asReceived (options.option "time").truthy (givenBounds options) [] with
    | error e => rfl
    | ok finding =>
      cases finding with
      | satisfied => rfl
      | unsatisfied edits =>
        have unlisted (m : Message) : (m.append "").finish = m.finish := by
          simp [Message.append, Message.finish]
        change Except.ok (some ((options.option "message").orElse
          (.text ((edits.foldl Message.edit Message.start).append "").finish))) = _
        rw [unlisted]
        rfl

end OnlyBounds

/-! ## Bounds in order -/

section

variable {scene : Scene} {asReceived : Value} {withTime : Bool}

theorem boundFinding_nil_ne_satisfied {edits : List Edit} :
    boundFinding scene asReceived withTime [] edits ≠ .ok .satisfied := by
  intro satisfied
  cases satisfied

/-- Bounds are tried in order: the first one that accepts the value satisfies the check, and those
    before it have rejected the value. -/
theorem boundFinding_cons_satisfied_iff {bound : Direction × Value}
    {rest : List (Direction × Value)} {edits : List Edit} :
    boundFinding scene asReceived withTime (bound :: rest) edits = .ok .satisfied ↔
      Accepts scene asReceived withTime bound ∨
        ∃ failure, Rejects scene asReceived withTime bound failure ∧
          boundFinding scene asReceived withTime rest (edits ++ [.replace failure])
            = .ok .satisfied := by
  obtain ⟨d, limit⟩ := bound
  unfold Accepts Rejects
  rw [boundFinding]
  cases Bound.evaluate scene.subject scene.clock scene.value asReceived limit d withTime with
  | error e => simp [bind, Except.bind]
  | ok evaluation =>
    cases evaluation with
    | none => simp [bind, Except.bind, pure, Except.pure]
    | some failure => simp [bind, Except.bind]

/-- Bounds that all reject the value leave their sentences one after another. -/
theorem boundFinding_unsatisfied_iff {bounds : List (Direction × Value)} {edits left : List Edit} :
    boundFinding scene asReceived withTime bounds edits = .ok (.unsatisfied left) ↔
      ∃ failures : List String, left = edits ++ failures.map .replace ∧
        List.Forall₂ (Rejects scene asReceived withTime) bounds failures := by
  constructor
  · intro came
    rcases boundFinding_cases came with ⟨isSatisfied, _⟩ | ⟨failures, same, rejects⟩
    · cases isSatisfied
    · cases same
      exact ⟨failures, rfl, rejects⟩
  · rintro ⟨failures, rfl, rejects⟩
    induction rejects generalizing edits with
    | nil => simp [boundFinding]
    | @cons bound failure rest others rejects later ih =>
      obtain ⟨d, limit⟩ := bound
      rw [boundFinding, show Bound.evaluate scene.subject scene.clock scene.value asReceived limit d
        withTime = .ok (some failure) from rejects]
      have came := @ih (edits ++ [.replace failure])
      rw [List.append_assoc] at came
      exact came

/-- Of two bounds, the second one counts only for a value that the first one rejects. -/
theorem boundFinding_pair_satisfied_iff {first second : Direction × Value} :
    boundFinding scene asReceived withTime [first, second] [] = .ok .satisfied ↔
      Accepts scene asReceived withTime first ∨
        (∃ failure, Rejects scene asReceived withTime first failure) ∧
          Accepts scene asReceived withTime second := by
  rw [boundFinding_cons_satisfied_iff]
  refine or_congr Iff.rfl ?_
  constructor
  · rintro ⟨failure, early, satisfied⟩
    rcases boundFinding_cons_satisfied_iff.mp satisfied with late | ⟨_, _, impossible⟩
    · exact ⟨⟨failure, early⟩, late⟩
    · exact absurd impossible boundFinding_nil_ne_satisfied
  · rintro ⟨⟨failure, early⟩, late⟩
    exact ⟨failure, early, boundFinding_cons_satisfied_iff.mpr (.inl late)⟩

theorem boundFinding_pair_unsatisfied_iff {first second : Direction × Value} {left : List Edit} :
    boundFinding scene asReceived withTime [first, second] [] = .ok (.unsatisfied left) ↔
      ∃ failure last, Rejects scene asReceived withTime first failure ∧
        Rejects scene asReceived withTime second last ∧
        left = [.replace failure, .replace last] := by
  rw [boundFinding_unsatisfied_iff]
  constructor
  · rintro ⟨failures, rfl, rejects⟩
    cases rejects with
    | @cons _ failure _ _ early later =>
      cases later with
      | @cons _ last _ _ late others =>
        cases others
        exact ⟨failure, last, early, late, rfl⟩
  · rintro ⟨failure, last, early, late, rfl⟩
    exact ⟨[failure, last], rfl, .cons early (.cons late .nil)⟩

end

/-! ## Rules with bounds alone -/

variable {context : Context} {rule : Rule} {subject : Subject} {value asReceived : Value}

/-- What a finding of its bounds makes a rule report. -/
def Finding.report (context : Context) (rule : Rule) (subject : Subject) (finding : Finding) :
    Run.Report :=
  rule.reportJudged context.registry subject (finding.message rule.options)

theorem Finding.report_none_iff {found : Except Fault Finding} :
    (found >>= Finding.report context rule subject) = .ok none ↔ found = .ok .satisfied := by
  constructor
  · intro isNone
    obtain ⟨finding, rfl, reported⟩ := ok_bind_iff.mp isNone
    cases finding with
    | satisfied => rfl
    | unsatisfied edits => exact absurd reported Rule.reportFailure_ne_none
  · rintro rfl
    rfl

theorem Finding.report_some_iff {found : Except Fault Finding} {entry : Collection × Entry} :
    (found >>= Finding.report context rule subject) = .ok (some entry) ↔
      ∃ edits, found = .ok (.unsatisfied edits) ∧
        (Finding.unsatisfied edits).report context rule subject = .ok (some entry) := by
  constructor
  · intro isSome
    obtain ⟨finding, rfl, reported⟩ := ok_bind_iff.mp isSome
    cases finding with
    | satisfied => cases reported
    | unsatisfied edits => exact ⟨edits, rfl, reported⟩
  · rintro ⟨edits, rfl, reported⟩
    exact reported

/-- An enabled rule with bounds alone reports what they find. -/
theorem OnlyBounds.report_eq (only : OnlyBounds rule.options) {d : Direction}
    (given : rule.options.option d.text ≠ .null)
    (on : context.registry.isDisabled rule.name = .ok false) :
    report context rule subject value = (do
      let asReceived ← subject.received rule.field
      boundFinding (sceneOf context rule subject value) asReceived
        (rule.options.option "time").truthy (givenBounds rule.options) []
          >>= Finding.report context rule subject) := by
  have directed := any_isDirective_of_given d.text (by cases d <;> decide) given
  rw [report_of_enabled on directed, only.judge_outcome]
  simp only [bind_assoc, pure_bind]
  rfl

theorem givenBounds_of_both {options : Entries}
    (both : ∀ d : Direction, options.option d.text ≠ .null) :
    givenBounds options = [(.before, options.option Direction.before.text),
      (.after, options.option Direction.after.text)] := by
  unfold givenBounds
  refine (List.filterMap_congr (g := fun d => some (d, options.option d.text)) ?_).trans rfl
  intro d _
  split
  next isNull => exact absurd isNull (both d)
  · rfl

/-- What comes of holding a value against one of the bounds of a rule. -/
def held (context : Context) (rule : Rule) (subject : Subject) (value asReceived : Value)
    (d : Direction) : Except Fault (Option String) :=
  Bound.evaluate subject context.clock value asReceived (rule.options.option d.text) d
    (rule.options.option "time").truthy

/-- A rule whose only directives are two bounds passes just when the bound to come before accepts
    the value, or rejects it and the bound to come after accepts it. It fails when both reject it,
    with what the bound to come after says. So if there is any time in its window it rejects no
    date. -/
theorem window_passes_by_either_bound (value : Value) (only : OnlyBounds rule.options)
    (both : ∀ d : Direction, rule.options.option d.text ≠ .null)
    (on : context.registry.isDisabled rule.name = .ok false)
    (received : subject.received rule.field = .ok asReceived) :
    let outcome := (run context rule subject value).outcome
    let held := held context rule subject value asReceived
    (outcome = .ok true ↔ held .before = .ok none ∨
      (∃ failure, held .before = .ok (some failure)) ∧ held .after = .ok none) ∧
    (outcome = .ok false ↔ ∃ failure last entry, held .before = .ok (some failure) ∧
      held .after = .ok (some last) ∧
      rule.reportFailure context.registry subject ((rule.options.option "message").orElse
        (.text (last ++ "."))) = .ok (some entry)) ∧
    ∀ latest earliest, value.isDate = true →
      Bound.resolve subject context.clock (rule.options.option "before") value .before
        = .ok latest →
      Bound.resolve subject context.clock (rule.options.option "after") value .after
        = .ok earliest →
      Bound.InOrder (rule.options.option "time").truthy earliest latest → outcome ≠ .ok false := by
  intro outcome held
  have reports := run_reports context rule subject value
  rw [only.report_eq (both .before) on, received, givenBounds_of_both both] at reports
  change Run.Reports _ (boundFinding (sceneOf context rule subject value) asReceived _ _ []
    >>= Finding.report context rule subject) at reports
  have passes := reports.passed_iff
  rw [Finding.report_none_iff, boundFinding_pair_satisfied_iff] at passes
  have fails : outcome = .ok false ↔ ∃ failure last entry, held .before = .ok (some failure) ∧
      held .after = .ok (some last) ∧
      rule.reportFailure context.registry subject ((rule.options.option "message").orElse
        (.text (last ++ "."))) = .ok (some entry) := by
    rw [reports.failed_iff]
    simp only [Finding.report_some_iff, boundFinding_pair_unsatisfied_iff]
    constructor
    · rintro ⟨entry, _, ⟨failure, last, early, late, rfl⟩, reported⟩
      exact ⟨failure, last, entry, early, late, reported⟩
    · rintro ⟨failure, last, entry, early, late, reported⟩
      exact ⟨entry, _, ⟨failure, last, early, late, rfl⟩, reported⟩
  refine ⟨passes, fails, ?_⟩
  intro latest earliest isDate ends starts inOrder failed
  obtain ⟨failure, last, entry, early, late, _⟩ := fails.mp failed
  rcases Bound.admits_either_side isDate inOrder with inTime | inTime
  · cases early.symm.trans (Bound.evaluate_of_admits ends inTime)
  · cases late.symm.trans (Bound.evaluate_of_admits starts inTime)

/-- A rule on a start, which is to come in May. -/
def mayRule : Rule where
  field := .text "start"
  options :=
    [(.text "before", .date ⟨2025, 5, 31, by decide⟩),
      (.text "after", .date ⟨2025, 5, 1, by decide⟩)]

theorem mayRule_onlyBounds : OnlyBounds mayRule.options where
  directives := by
    intro entry member _
    rcases List.mem_cons.mp member with rfl | last
    · exact ⟨.before, rfl⟩
    · rcases List.mem_cons.mp last with rfl | none
      · exact ⟨.after, rfl⟩
      · cases none
  always := by cbv

theorem mayRule_given (d : Direction) : mayRule.options.option d.text ≠ .null := by
  cases d with
  | before =>
    have bound : mayRule.options.option "before" = .date ⟨2025, 5, 31, by decide⟩ := by cbv
    simp [Direction.text, bound]
  | after =>
    have bound : mayRule.options.option "after" = .date ⟨2025, 5, 1, by decide⟩ := by cbv
    simp [Direction.text, bound]

/-- A day of June passes the rule on May: it comes too late, but it does come after. -/
theorem june_passes_mayRule :
    let context : Context := ⟨.empty, ⟨⟨2024, 6, 15, by decide⟩, 43200000000, none, by decide⟩⟩
    let june : Value := .date ⟨2025, 6, 30, by decide⟩
    let subject : Subject := ⟨"R1", none, none, [("start", june)], none⟩
    context.registry.isDisabled mayRule.name = .ok false ∧
      subject.received mayRule.field = .ok june ∧
      held context mayRule subject june june .before = .ok (some
        ": 2025-06-30 is not a valid value. Date cannot be after 2025-05-31") ∧
      (run context mayRule subject june).outcome = .ok true := by
  intro context june subject
  have on : context.registry.isDisabled mayRule.name = .ok false := by cbv
  have received : subject.received mayRule.field = .ok june := by cbv
  have late : held context mayRule subject june june .before = .ok (some
      ": 2025-06-30 is not a valid value. Date cannot be after 2025-05-31") := by cbv
  have inTime : held context mayRule subject june june .after = .ok none := by cbv
  obtain ⟨passes, _⟩ :=
    window_passes_by_either_bound june mayRule_onlyBounds mayRule_given on received
  exact ⟨on, received, late, passes.mpr (.inr ⟨⟨_, late⟩, inTime⟩)⟩

/-- A day of April, which the bound to come after rejects, passes the rule on May. -/
theorem april_passes_mayRule :
    let context : Context := ⟨.empty, ⟨⟨2024, 6, 15, by decide⟩, 43200000000, none, by decide⟩⟩
    let april : Value := .date ⟨2025, 4, 30, by decide⟩
    let subject : Subject := ⟨"R1", none, none, [("start", april)], none⟩
    april.isDate = true ∧ OnlyBounds mayRule.options ∧
      (∀ d : Direction, mayRule.options.option d.text ≠ .null) ∧
      context.registry.isDisabled mayRule.name = .ok false ∧
      subject.received mayRule.field = .ok april ∧
      held context mayRule subject april april .after = .ok (some
        ": 2025-04-30 is not a valid value. Date cannot be before 2025-05-01") ∧
      (run context mayRule subject april).outcome = .ok true := by
  intro context april subject
  exact ⟨rfl, mayRule_onlyBounds, mayRule_given, by cbv, by cbv, by cbv, by cbv⟩

end MustBe

end RecordRules
