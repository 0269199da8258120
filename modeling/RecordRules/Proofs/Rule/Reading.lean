import Mathlib
import RecordRules.Proofs.Record.Filing
import RecordRules.Proofs.Rule.Verdict

/-!
# What rules read

A rule without formulas reads the attributes that it names and no others: its own, those that its
comparisons, bounds and conditions refer to, and those that its conditions are on. So on two records
that agree on these it runs alike, to the same verdict or fault (`sees_only_what_it_names`).
-/

namespace RecordRules

namespace Rule

/-- The attributes that a rule names. -/
inductive Reads (rule : Rule) : Value → Prop where
  | own : Reads rule rule.field
  | operand {c : Comparator} {name : Value}
      (asked : (.text c.name, .field name) ∈ rule.options) : Reads rule name
  | bound {d : Direction} {name : Value} (given : rule.options.option d.text = .field name) :
      Reads rule name
  | key {conditions : Entries} {name condition : Value}
      (given : rule.options.option "when" = .dict conditions)
      (asked : (name, condition) ∈ conditions) : Reads rule name
  | condition {conditions : Entries} {key name : Value}
      (given : rule.options.option "when" = .dict conditions)
      (asked : (key, .field name) ∈ conditions) : Reads rule name

/-- A rule that computes nothing from the record, and files into one of its two collections. -/
structure Plain (rule : Rule) : Prop where
  operands : ∀ (c : Comparator) (operand : Value), (.text c.name, operand) ∈ rule.options →
    operand.isComputed = false
  bounds : ∀ d : Direction, (rule.options.option d.text).isComputed = false
  level : rule.options.option "error_level" ∈ [.null, .text "errors", .text "warnings"]

/-- Two subjects that are alike in what a rule names, and in what was received for its own
    attribute. -/
structure Alike (rule : Rule) (s t : Subject) : Prop where
  read : ∀ name, rule.Reads name → s.read name = t.read name
  received : s.received rule.field = t.received rule.field

end Rule

variable {s t : Subject}

/-! ## Operands and bounds -/

/-- What a value refers to, if it is a reference, is read alike. -/
def Value.ReadAlike (s t : Subject) (v : Value) : Prop :=
  ∀ name, v = .field name → s.read name = t.read name

theorem resolve_alike {operand : Value} (plain : operand.isComputed = false)
    (read : operand.ReadAlike s t) : s.resolve operand = t.resolve operand := by
  cases operand with
  | field name => exact read name rfl
  | computed name formula => cases plain
  | _ => rfl

namespace Bound

/-- Whether an attribute is there is of no consequence: what is not there reads as nothing. -/
theorem resolve_field (s : Subject) (clock : Moment) (name value : Value) (d : Direction) :
    resolve s clock (.field name) value d
      = s.read name >>= fun resolved => ofResolved (.field name) resolved := by
  show (do if ← s.has name then ofResolved (.field name) (← s.read name) else pure .null) = _
  unfold Subject.has Subject.read
  cases isKey : name.asKey with
  | error e => rfl
  | ok key =>
    cases there : s.payload.get? key with
    | some v => simp [Bind.bind, Except.bind, Pure.pure, Except.pure, there]
    | none =>
      cases asReceived : (s.raw.get? key).isSome <;>
        simp [Bind.bind, Except.bind, Pure.pure, Except.pure, there, asReceived, ofResolved,
          Value.isBlank]

variable {bound : Value}

theorem resolve_alike (plain : bound.isComputed = false) (read : bound.ReadAlike s t)
    (clock : Moment) (value : Value) (d : Direction) :
    resolve s clock bound value d = resolve t clock bound value d := by
  cases bound with
  | field name => rw [resolve_field, resolve_field, read name rfl]
  | computed name formula => cases plain
  | sentinel word => cases word <;> rfl
  | _ => rfl

theorem describe_alike (plain : bound.isComputed = false) (s t : Subject) (d : Direction) :
    describe s bound d = describe t bound d := by
  cases bound with
  | computed name formula => cases plain
  | sentinel word => cases word <;> rfl
  | _ => rfl

theorem evaluate_alike (plain : bound.isComputed = false) (read : bound.ReadAlike s t)
    (clock : Moment) (value asReceived : Value) (d : Direction) (withTime : Bool) :
    evaluate s clock value asReceived bound d withTime
      = evaluate t clock value asReceived bound d withTime := by
  unfold evaluate
  rw [resolve_alike plain read, describe_alike plain s t]

end Bound

/-! ## Conditions -/

namespace Condition

theorem holds_alike {condition : Value} (read : condition.ReadAlike s t) (current : Value) :
    holds s condition current = holds t condition current := by
  cases condition with
  | field name =>
    have asks (u : Subject) : holds u (.field name) current
        = u.read name >>= fun other => pure (current.equals other) := by
      cases current <;> rfl
    rw [asks, asks, read name rfl]
  | sentinel word => cases word <;> cases current <;> rfl
  | _ => cases current <;> rfl

theorem clauses_alike {conditions : Entries}
    (keys : ∀ entry ∈ conditions, s.read entry.1 = t.read entry.1)
    (references : ∀ entry ∈ conditions, entry.2.ReadAlike s t) (field : Value) :
    clauses s field conditions = clauses t field conditions := by
  induction conditions generalizing s t with
  | nil => rfl
  | cons entry rest ih =>
    obtain ⟨name, condition⟩ := entry
    have first := holds_alike (references _ List.mem_cons_self)
    have sameRead := keys _ List.mem_cons_self
    unfold clauses
    cases read : s.read name with
    | error e =>
      rw [← sameRead, read]
      rfl
    | ok current =>
      have readToo : t.read name = .ok current := sameRead.symm.trans read
      -- What is left of the value is the same, so that the other conditions read alike too.
      have nothing (none : current = .null) : left condition current = .null :=
        none ▸ left_null condition
      have kept {other : Value} (alike : s.read other = t.read other) :=
        Subject.read_leave_congr read readToo nothing alike
      have others : clauses (s.leave name (left condition current)) field rest
          = clauses (t.leave name (left condition current)) field rest :=
        ih (fun other member => kept (keys other (List.mem_cons_of_mem _ member)))
          fun other member called isField =>
            kept (references other (List.mem_cons_of_mem _ member) called isField)
      simp only [readToo, Trial.lift_ok_bind, first, others]

end Condition

/-! ## Destinations -/

variable {rule : Rule}

theorem destination_alike (plain : rule.Plain) (registry : Registry) (s t : Subject) :
    rule.destination registry s = rule.destination registry t := by
  have levels := plain.level
  simp only [List.mem_cons, List.not_mem_nil, or_false] at levels
  unfold Rule.destination Rule.level
  rcases levels with level | level | level
  · rw [level]
    cases registry.isNotice rule.name <;> rfl
  · rw [level]
    rfl
  · rw [level]
    rfl

theorem bound_readAlike (alike : rule.Alike s t) (d : Direction) :
    (rule.options.option d.text).ReadAlike s t :=
  fun name given => alike.read name (.bound given)

/-! ## Must-be rules -/

namespace MustBe

variable (context : Context) (value : Value)

theorem boundFinding_alike (plain : rule.Plain) (alike : rule.Alike s t)
    {bounds : List (Direction × Value)}
    (given : ∀ b ∈ bounds, b.2 = rule.options.option b.1.text) (asReceived : Value)
    (withTime : Bool) (edits : List Edit) :
    boundFinding (sceneOf context rule s value) asReceived withTime bounds edits
      = boundFinding (sceneOf context rule t value) asReceived withTime bounds edits := by
  induction bounds generalizing edits with
  | nil => rfl
  | cons bound rest ih =>
    obtain ⟨d, bound⟩ := bound
    obtain rfl : bound = rule.options.option d.text := given _ List.mem_cons_self
    have others := ih fun b member => given b (List.mem_cons_of_mem _ member)
    have first := Bound.evaluate_alike (plain.bounds d) (bound_readAlike alike d)
    unfold boundFinding
    simp only [sceneOf] at others ⊢
    simp only [first, others]

/-- What a check that looks at the record takes from the options of its rule. -/
def Check.AskedBy (options : Entries) : Check → Prop
  | .window bounds _ => bounds = givenBounds options
  | .comparison c operand => (.text c.name, operand) ∈ options
  | .conditions given => given = options.option "when"
  | _ => True

theorem askedBy_of_mem {options : Entries} {check : Check} (member : check ∈ checks options) :
    check.AskedBy options := by
  simp only [checks, List.mem_append, mem_ifGiven_iff, mem_comparisons_iff] at member
  rcases member with ((((((blank | present) | ⟨_, rfl⟩) | ⟨_, rfl⟩) | ⟨_, rfl⟩) | window) |
    ⟨c, operand, asked, rfl⟩) | ⟨_, rfl⟩
  · split at blank
    · obtain rfl := List.mem_singleton.mp blank
      trivial
    · cases blank
  · split at present
    · obtain rfl := List.mem_singleton.mp present
      trivial
    · cases present
  · trivial
  · trivial
  · trivial
  · obtain rfl := List.mem_singleton.mp window
    rfl
  · exact asked
  · rfl

theorem Check.run_alike (plain : rule.Plain) (alike : rule.Alike s t) {check : Check}
    (asked : check.AskedBy rule.options) :
    check.run (sceneOf context rule s value) = check.run (sceneOf context rule t value) := by
  cases check with
  | window bounds withTime =>
    obtain rfl : bounds = givenBounds rule.options := asked
    have given : ∀ b ∈ givenBounds rule.options, b.2 = rule.options.option b.1.text :=
      fun b member => (mem_givenBounds_iff.mp member).2
    have found := boundFinding_alike context value plain alike given
    unfold Check.run
    simp only [sceneOf] at found ⊢
    simp only [alike.received, found]
  | comparison c operand =>
    have asked : (.text c.name, operand) ∈ rule.options := asked
    have resolved := resolve_alike (plain.operands c operand asked)
      (s := s) (t := t) fun name isField => alike.read name (.operand (isField ▸ asked))
    unfold Check.run
    simp only [sceneOf, resolved]
  | conditions limits =>
    obtain rfl : limits = rule.options.option "when" := asked
    cases given : rule.options.option "when" with
    | dict entries =>
      have keys : ∀ entry ∈ entries, s.read entry.1 = t.read entry.1 :=
        fun entry member => alike.read _ (.key given member)
      have references : ∀ entry ∈ entries, entry.2.ReadAlike s t := by
        rintro ⟨key, condition⟩ member name rfl
        exact alike.read name (.condition given member)
      have clauses := Condition.clauses_alike keys references rule.field
      unfold Check.run
      simp only [sceneOf, clauses]
    | _ => rfl
  | _ => rfl

theorem runChecks_congr {scene other : Scene} {checks : List Check}
    (alike : ∀ check ∈ checks, check.run scene = check.run other) (m : Message) :
    runChecks scene checks m = runChecks other checks m := by
  induction checks generalizing m with
  | nil => rfl
  | cons check rest ih =>
    have others := ih fun later member => alike later (List.mem_cons_of_mem _ member)
    unfold runChecks
    simp only [alike check List.mem_cons_self, others]

theorem judge_alike (plain : rule.Plain) (alike : rule.Alike s t) :
    judge rule.options (sceneOf context rule s value)
      = judge rule.options (sceneOf context rule t value) := by
  unfold judge
  rw [runChecks_congr fun check member =>
    Check.run_alike context value plain alike (askedBy_of_mem member)]

theorem run_alike (plain : rule.Plain) (alike : rule.Alike s t) :
    run context rule s value = run context rule t value := by
  have judged := judge_alike context value plain alike
  have aimed := destination_alike plain context.registry s t
  unfold sceneOf at judged
  unfold run
  simp only [judged, aimed]

end MustBe

/-! ## Date rules -/

namespace DateRule

variable (context : Context)

theorem runBound_alike (plain : rule.Plain) (alike : rule.Alike s t) (destination : Destination)
    (value asReceived : Value) (d : Direction) :
    runBound context rule s destination value asReceived d
      = runBound context rule t destination value asReceived d := by
  have plainBound := plain.bounds d
  have readBound := bound_readAlike alike d
  unfold runBound
  revert plainBound readBound
  generalize rule.options.option d.text = bound
  intro plainBound readBound
  have evaluated := Bound.evaluate_alike plainBound readBound
  split
  · rfl
  · simp only [evaluated]

theorem run_alike (plain : rule.Plain) (alike : rule.Alike s t) (value : Value) :
    run context rule s value = run context rule t value := by
  have aimed := destination_alike plain context.registry s t
  have held := runBound_alike context plain alike
  unfold run
  simp only [alike.received, aimed, held]

end DateRule

/-! ## Rules of either kind -/

theorem RuleKind.runOn_alike (kind : RuleKind) (context : Context) (plain : rule.Plain)
    (alike : rule.Alike s t) : kind.runOn context rule s = kind.runOn context rule t := by
  unfold runOn
  rw [alike.read rule.field .own]
  cases kind with
  | mustBe => simp only [run, MustBe.run_alike context _ plain alike]
  | date => simp only [run, DateRule.run_alike context plain alike]

/-- A rule that computes nothing runs alike on two records that agree on what it names: it writes
    the same notes, makes the same changes, comes to the same verdict or fault, and adds the same
    entries. A reference among
    the values of a membership is not what it names: memberships do not look at the record. -/
theorem Rule.sees_only_what_it_names {record other : Record} (plain : rule.Plain)
    (alike : rule.Alike record.subject other.subject) (kind : RuleKind) (context : Context) :
    let run := kind.runOn context rule record.subject
    let otherRun := kind.runOn context rule other.subject
    run = otherRun ∧
    (∃ added : Collection → List Entry, ∀ c,
      (record.after run).entries c = record.entries c ++ added c ∧
        (other.after otherRun).entries c = other.entries c ++ added c) ∧
    ∀ values : Value,
      ∀ check ∈ [MustBe.Check.oneOf values, .notAnyOf values, .onlyFrom values],
        ∀ (scene : MustBe.Scene) (subject : Subject),
          check.run { scene with subject } = check.run scene := by
  intro run otherRun
  have same : run = otherRun := kind.runOn_alike context plain alike
  refine ⟨same, ⟨fun c => c.among run.filed, fun c => ?_⟩, ?_⟩
  · rw [← same]
    exact ⟨record.entries_after run c, other.entries_after run c⟩
  · intro values check member scene subject
    simp only [List.mem_cons, List.not_mem_nil, or_false] at member
    rcases member with rfl | rfl | rfl <;> rfl

/-- A rule on the end of a period, which refers to its start. -/
def periodRule : Rule where
  field := .text "end"
  options :=
    [(.text "one_of", .list [.field (.text "draft")]), (.text "after", .field (.text "start")),
      (.text "greater_than", .field (.text "start")),
      (.text "when", .dict [(.text "kind", .field (.text "usual"))])]

theorem periodRule_sees :
    let context : Context := ⟨.empty, ⟨⟨2024, 5, 1, by decide⟩, 0, none, by decide⟩⟩
    let start : Value := .date ⟨2024, 5, 1, by decide⟩
    let stop : Value := .date ⟨2024, 4, 30, by decide⟩
    let record : Record :=
      ⟨⟨"A-1", none, none, [("start", start), ("end", stop), ("draft", stop)], none⟩, [], [],
        .pending⟩
    let other : Record :=
      ⟨⟨"A-2", some "B", none, [("end", stop), ("draft", start)],
          some [("end", stop), ("start", start)]⟩, [], [], .valid⟩
    (RuleKind.mustBe.runOn context periodRule record.subject).outcome = .ok false ∧
      (other.after (RuleKind.mustBe.runOn context periodRule other.subject)).errors
        = (record.after (RuleKind.mustBe.runOn context periodRule record.subject)).errors := by
  intro context start stop record other
  have before : periodRule.options.option "before" = .null := by cbv
  have after : periodRule.options.option "after" = .field (.text "start") := by cbv
  have limits : periodRule.options.option "when"
      = .dict [(.text "kind", .field (.text "usual"))] := by cbv
  have operands : ∀ (c : Comparator) (operand : Value),
      (.text c.name, operand) ∈ periodRule.options → operand = .field (.text "start") := by
    intro c operand asked
    cases c <;> simp [periodRule, Comparator.name] at asked
    exact asked
  have plain : periodRule.Plain := by
    refine ⟨fun c operand asked => ?_, fun d => ?_, ?_⟩
    · obtain rfl := operands c operand asked
      rfl
    · cases d with
      | before => exact before ▸ rfl
      | after => exact after ▸ rfl
    · have level : periodRule.options.option "error_level" = .null := by cbv
      exact level ▸ List.mem_cons_self
  have alike : periodRule.Alike record.subject other.subject := by
    refine ⟨fun name reads => ?_, by cbv⟩
    cases reads with
    | own => cbv
    | operand asked =>
      obtain rfl := Value.field.inj (operands _ _ asked)
      cbv
    | @bound d _ given =>
      cases d with
      | before => cases before.symm.trans given
      | after =>
        obtain rfl := Value.field.inj (given.symm.trans after)
        cbv
    | key given asked =>
      obtain rfl := Value.dict.inj (given.symm.trans limits)
      obtain ⟨rfl, rfl⟩ := Prod.mk.inj (List.mem_singleton.mp asked)
      cbv
    | condition given asked =>
      obtain rfl := Value.dict.inj (given.symm.trans limits)
      obtain ⟨rfl, same⟩ := Prod.mk.inj (List.mem_singleton.mp asked)
      obtain rfl := Value.field.inj same
      cbv
  obtain ⟨_, ⟨added, adds⟩, _⟩ := Rule.sees_only_what_it_names plain alike .mustBe context
  refine ⟨by cbv, ?_⟩
  exact (adds .errors).2.trans (adds .errors).1.symm

end RecordRules
