import RecordRules.Proofs.Model.Checked
import RecordRules.Rule.Kind

/-!
# What rules file

A must-be rule that fails files one entry, a date rule one for each bound that rejects the value or
one for a value that did not read; a rule that passes files none. Every entry goes to the collection
of the rule, on its attribute and under its name (`filing_of_runOn`). Of the registry, a rule sees
no more than whether it is itself disabled or a notice rule (`runOn_congr`).
-/

namespace RecordRules

/-- An entry for a failure of a rule, in the collection where its failures go. -/
structure Rule.Files (rule : Rule) (registry : Registry) (subject : Subject)
    (filed : Collection × Entry) : Prop where
  aimed : rule.destination registry subject = .ok (.collection filed.1)
  field : rule.field.asText = .ok filed.2.name
  named : filed.2.metadata = [("rule_name", rule.name)]

/-- The entry of a rule carries its name. -/
theorem Rule.Files.ruleName {rule : Rule} {registry : Registry} {subject : Subject}
    {filed : Collection × Entry} (files : rule.Files registry subject filed) :
    filed.2.ruleName = rule.name := by
  rw [Entry.ruleName, files.named]
  rfl

theorem make_ok {name message : Value} {metadata : Named Value} {e : Entry}
    (made : Entry.make name message metadata = .ok e) :
    name.asText = .ok e.name ∧ message.asText = .ok e.message ∧ e.metadata = metadata := by
  obtain ⟨⟨shownName, shownMessage⟩, texts, rfl⟩ := ok_map_iff.mp (ok_mapError_iff.mp made)
  obtain ⟨nameIs, messageIs⟩ := Checked.both_ok_iff.mp texts
  exact ⟨Checked.within_ok_iff.mp nameIs, Checked.within_ok_iff.mp messageIs, rfl⟩

theorem files_of_file {rule : Rule} {registry : Registry} {subject : Subject}
    {destination : Destination} {message : Value} {filed : Collection × Entry}
    (aimed : rule.destination registry subject = .ok destination)
    (made : destination.file rule.field message rule.name = .ok filed) :
    rule.Files registry subject filed ∧ message.asText = .ok filed.2.message := by
  cases destination with
  | collection c =>
    obtain ⟨e, entry, same⟩ := ok_bind_iff.mp made
    obtain rfl := ok_pure_iff.mp same
    obtain ⟨field, text, named⟩ := make_ok entry
    exact ⟨⟨aimed, field, named⟩, text⟩
  | set => simp [Destination.file] at made
  | model => simp [Destination.file] at made
  | other kind => simp [Destination.file] at made

/-! ## Must-be rules -/

namespace MustBe

/-- The scene on which a rule is judged. -/
def sceneOf (context : Context) (rule : Rule) (subject : Subject) (value : Value) : Scene :=
  { subject, clock := context.clock, field := rule.field, value }

/-- What a run of a rule has come to: it was disabled, or judged and then passed or failed. -/
inductive Ran (context : Context) (rule : Rule) (subject : Subject) (value : Value) :
    List (Collection × Entry) → Bool → Prop where
  | disabled (off : context.registry.isDisabled rule.name = .ok true) :
      Ran context rule subject value [] true
  | passed (on : context.registry.isDisabled rule.name = .ok false)
      (judged : (judge rule.options (sceneOf context rule subject value)).outcome = .ok none) :
      Ran context rule subject value [] true
  | failed {message : Value} {filed : Collection × Entry}
      (on : context.registry.isDisabled rule.name = .ok false)
      (judged : (judge rule.options (sceneOf context rule subject value)).outcome
        = .ok (some message))
      (files : rule.Files context.registry subject filed)
      (text : message.asText = .ok filed.2.message) :
      Ran context rule subject value [filed] false

theorem ran_of_yields {context : Context} {rule : Rule} {subject : Subject} {value : Value}
    {filed : List (Collection × Entry)} {verdict : Bool}
    (yields : (run context rule subject value).Yields filed verdict) :
    Ran context rule subject value filed verdict := by
  unfold run at yields
  obtain ⟨off, known, rest⟩ := Run.yields_lift_bind_iff.mp yields
  cases off with
  | true =>
    simp only [reduceIte, Run.yields_lift_bind_iff, Run.yields_trial_bind_iff,
      Run.yields_pure_iff] at rest
    obtain ⟨_, _, _, _, _, _, rfl, rfl⟩ := rest
    exact .disabled known
  | false =>
    simp only [Bool.false_eq_true, reduceIte] at rest
    split at rest
    · obtain ⟨_, _, stopped⟩ := Run.yields_lift_bind_iff.mp rest
      exact absurd stopped Run.not_yields_stop
    · obtain ⟨judgement, judged, rest⟩ := Run.yields_trial_bind_iff.mp rest
      cases judgement with
      | none =>
        obtain ⟨rfl, rfl⟩ := Run.yields_pure_iff.mp rest
        exact .passed known judged
      | some message =>
        simp only [Run.yields_lift_bind_iff, Run.yields_trial_bind_iff, Run.yields_file_bind_iff,
          Run.yields_pure_iff] at rest
        obtain ⟨destination, aimed, entry, made, _, ⟨_, _, _, _, _, _, rfl, rfl⟩, rfl⟩ := rest
        obtain ⟨files, text⟩ := files_of_file aimed made
        exact .failed known judged files text

end MustBe

/-! ## Date rules -/

namespace DateRule

/-- What holding a date against one bound has come to. -/
inductive BoundRan (context : Context) (rule : Rule) (subject : Subject) (value asReceived : Value)
    (d : Direction) : List (Collection × Entry) → Bool → Prop where
  | absent (notGiven : rule.options.option d.text = .null) :
      BoundRan context rule subject value asReceived d [] true
  | accepted (given : rule.options.option d.text ≠ .null)
      (evaluated : Bound.evaluate subject context.clock value asReceived
        (rule.options.option d.text) d (rule.options.option "time").truthy = .ok none) :
      BoundRan context rule subject value asReceived d [] true
  | rejected {failure : String} {filed : Collection × Entry}
      (given : rule.options.option d.text ≠ .null)
      (evaluated : Bound.evaluate subject context.clock value asReceived
        (rule.options.option d.text) d (rule.options.option "time").truthy = .ok (some failure))
      (files : rule.Files context.registry subject filed)
      (text : ((rule.options.option (d.text ++ "_message")).orElse (.text (failure ++ "."))).asText
        = .ok filed.2.message) :
      BoundRan context rule subject value asReceived d [filed] false

theorem boundRan_of_yields {context : Context} {rule : Rule} {subject : Subject}
    {destination : Destination} {value asReceived : Value} {d : Direction}
    {filed : List (Collection × Entry)} {verdict : Bool}
    (aimed : rule.destination context.registry subject = .ok destination)
    (yields : (runBound context rule subject destination value asReceived d).Yields filed verdict) :
    BoundRan context rule subject value asReceived d filed verdict := by
  unfold runBound at yields
  split at yields
  next notGiven =>
    obtain ⟨rfl, rfl⟩ := Run.yields_pure_iff.mp yields
    exact .absent notGiven
  next bound given =>
    obtain ⟨evaluation, evaluated, rest⟩ := Run.yields_lift_bind_iff.mp yields
    cases evaluation with
    | none =>
      obtain ⟨rfl, rfl⟩ := Run.yields_pure_iff.mp rest
      exact .accepted given evaluated
    | some failure =>
      simp only [Run.yields_lift_bind_iff, Run.yields_trial_bind_iff, Run.yields_file_bind_iff,
        Run.yields_pure_iff] at rest
      obtain ⟨entry, made, _, ⟨_, _, _, _, rfl, rfl⟩, rfl⟩ := rest
      obtain ⟨files, text⟩ := files_of_file aimed made
      exact .rejected given evaluated files text

/-- What a run of a rule has come to: it was disabled, what was received did not read as a date, the
    value is left to other rules, or it was held against both bounds. -/
inductive Ran (context : Context) (rule : Rule) (subject : Subject) (value : Value) :
    List (Collection × Entry) → Bool → Prop where
  | disabled (off : context.registry.isDisabled rule.name = .ok true) :
      Ran context rule subject value [] true
  | blank {asReceived : Value} (on : context.registry.isDisabled rule.name = .ok false)
      (unread : value = .null) (received : subject.received rule.field = .ok asReceived)
      (blank : asReceived.isBlank = true) (allowed : (rule.options.option "allow_blank").truthy) :
      Ran context rule subject value [] true
  | unread {asReceived : Value} {shown : String} {filed : Collection × Entry}
      (on : context.registry.isDisabled rule.name = .ok false)
      (unread : value = .null) (received : subject.received rule.field = .ok asReceived)
      (refused : (asReceived.isBlank && (rule.options.option "allow_blank").truthy) = false)
      (shows : Bound.shown asReceived = .ok shown)
      (files : rule.Files context.registry subject filed)
      (text : ((rule.options.option "message").orElse
        (.text (unreadable (rule.options.option "time").truthy shown))).asText
          = .ok filed.2.message) :
      Ran context rule subject value [filed] false
  | other (on : context.registry.isDisabled rule.name = .ok false)
      (there : value ≠ .null) (noDate : value.isDate = false) :
      Ran context rule subject value [] true
  | bounded {asReceived : Value} {filedAfter filedBefore : List (Collection × Entry)}
      {heldAfter heldBefore : Bool} (on : context.registry.isDisabled rule.name = .ok false)
      (isDate : value.isDate = true) (received : subject.received rule.field = .ok asReceived)
      (after : BoundRan context rule subject value asReceived .after filedAfter heldAfter)
      (before : BoundRan context rule subject value asReceived .before filedBefore heldBefore) :
      Ran context rule subject value (filedAfter ++ filedBefore) (heldAfter && heldBefore)

theorem ran_of_yields {context : Context} {rule : Rule} {subject : Subject} {value : Value}
    {filed : List (Collection × Entry)} {verdict : Bool}
    (yields : (run context rule subject value).Yields filed verdict) :
    Ran context rule subject value filed verdict := by
  unfold run at yields
  obtain ⟨off, known, rest⟩ := Run.yields_lift_bind_iff.mp yields
  cases off with
  | true =>
    simp only [reduceIte, Run.yields_lift_bind_iff, Run.yields_trial_bind_iff,
      Run.yields_pure_iff] at rest
    obtain ⟨_, _, _, _, _, _, rfl, rfl⟩ := rest
    exact .disabled known
  | false =>
    simp only [Bool.false_eq_true, reduceIte] at rest
    obtain ⟨asReceived, received, rest⟩ := Run.yields_lift_bind_iff.mp rest
    obtain ⟨destination, aimed, rest⟩ := Run.yields_lift_bind_iff.mp rest
    split at rest
    · unfold runUnread at rest
      split at rest
      next pass =>
        obtain ⟨blank, allowed⟩ := Bool.and_eq_true_iff.mp pass
        obtain ⟨rfl, rfl⟩ := Run.yields_pure_iff.mp rest
        exact .blank known rfl received blank allowed
      next refused =>
        simp only [Run.yields_lift_bind_iff, Run.yields_file_bind_iff, Run.yields_pure_iff] at rest
        obtain ⟨shown, shows, entry, made, _, ⟨rfl, rfl⟩, rfl⟩ := rest
        obtain ⟨files, text⟩ := files_of_file aimed made
        exact .unread known rfl received (Bool.eq_false_iff.mpr refused) shows files text
    next there =>
      split at rest
      next isDate =>
        obtain ⟨after, filedAfter, _, ranAfter, held, rfl⟩ := Run.yields_bind_iff.mp rest
        obtain ⟨before, filedBefore, _, ranBefore, both, rfl⟩ := Run.yields_bind_iff.mp held
        obtain ⟨rfl, rfl⟩ := Run.yields_pure_iff.mp both
        rw [List.append_nil]
        exact .bounded known isDate received (boundRan_of_yields aimed ranAfter)
          (boundRan_of_yields aimed ranBefore)
      next noDate =>
        obtain ⟨rfl, rfl⟩ := Run.yields_pure_iff.mp rest
        exact .other known there (Bool.eq_false_iff.mpr noDate)

end DateRule

/-! ## Rules of either kind -/

namespace RuleKind

/-- What a run of a rule leaves: entries of the rule, none if it passes, and otherwise as many as
    its kind allows. -/
structure Filing (kind : RuleKind) (rule : Rule) (registry : Registry) (subject : Subject)
    (filed : List (Collection × Entry)) (verdict : Bool) : Prop where
  files : ∀ entry ∈ filed, rule.Files registry subject entry
  passed : verdict = true → filed = []
  failed : verdict = false → filed.length = 1 ∨ kind = .date ∧ filed.length = 2

theorem filing_of_mustBe {context : Context} {rule : Rule} {subject : Subject} {value : Value}
    {filed : List (Collection × Entry)} {verdict : Bool}
    (ran : MustBe.Ran context rule subject value filed verdict) :
    mustBe.Filing rule context.registry subject filed verdict := by
  cases ran with
  | disabled off => exact ⟨by simp, fun _ => rfl, by simp⟩
  | passed on judged => exact ⟨by simp, fun _ => rfl, by simp⟩
  | failed on judged files text => exact ⟨by simpa using files, by simp, fun _ => .inl rfl⟩

theorem filing_of_bound {context : Context} {rule : Rule} {subject : Subject}
    {value asReceived : Value} {d : Direction} {filed : List (Collection × Entry)} {verdict : Bool}
    (ran : DateRule.BoundRan context rule subject value asReceived d filed verdict) :
    (∀ entry ∈ filed, rule.Files context.registry subject entry) ∧
      filed.length = if verdict then 0 else 1 := by
  cases ran with
  | absent notGiven => simp
  | accepted given evaluated => simp
  | rejected given evaluated files text => exact ⟨by simpa using files, rfl⟩

theorem filing_of_date {context : Context} {rule : Rule} {subject : Subject} {value : Value}
    {filed : List (Collection × Entry)} {verdict : Bool}
    (ran : DateRule.Ran context rule subject value filed verdict) :
    date.Filing rule context.registry subject filed verdict := by
  cases ran with
  | disabled off => exact ⟨by simp, fun _ => rfl, by simp⟩
  | blank on unread received blank allowed => exact ⟨by simp, fun _ => rfl, by simp⟩
  | unread on unread received refused shows files text =>
    exact ⟨by simpa using files, by simp, fun _ => .inl rfl⟩
  | other on there noDate => exact ⟨by simp, fun _ => rfl, by simp⟩
  | @bounded _ filedAfter filedBefore heldAfter heldBefore on isDate received after before =>
    obtain ⟨filesAfter, countAfter⟩ := filing_of_bound after
    obtain ⟨filesBefore, countBefore⟩ := filing_of_bound before
    refine ⟨?_, ?_, ?_⟩
    · intro entry member
      rcases List.mem_append.mp member with inAfter | inBefore
      · exact filesAfter entry inAfter
      · exact filesBefore entry inBefore
    · intro both
      obtain ⟨rfl, rfl⟩ := Bool.and_eq_true_iff.mp both
      simpa using And.intro (List.length_eq_zero_iff.mp countAfter)
        (List.length_eq_zero_iff.mp countBefore)
    · intro notBoth
      rw [List.length_append, countAfter, countBefore]
      cases heldAfter <;> cases heldBefore <;> simp_all

/-- Rules file entries of their own, and none unless they fail. -/
theorem filing_of_runOn {kind : RuleKind} {context : Context} {rule : Rule} {subject : Subject}
    {filed : List (Collection × Entry)} {verdict : Bool}
    (yields : (kind.runOn context rule subject).Yields filed verdict) :
    kind.Filing rule context.registry subject filed verdict := by
  obtain ⟨value, _, ran⟩ := Run.yields_lift_bind_iff.mp yields
  cases kind with
  | mustBe => exact filing_of_mustBe (MustBe.ran_of_yields ran)
  | date => exact filing_of_date (DateRule.ran_of_yields ran)

/-- Two contexts that agree on a rule: on the time, and on whether it is disabled or a notice
    rule. -/
structure Agree (rule : Rule) (context other : Context) : Prop where
  clock : context.clock = other.clock
  disabled : context.registry.isDisabled rule.name = other.registry.isDisabled rule.name
  notice : context.registry.isNotice rule.name = other.registry.isNotice rule.name

theorem destination_congr {rule : Rule} {context other : Context} (agree : Agree rule context other)
    (subject : Subject) :
    rule.destination context.registry subject = rule.destination other.registry subject := by
  simp only [Rule.destination, Rule.level, agree.notice]

/-- A rule runs alike in contexts that agree on it. -/
theorem runOn_congr {rule : Rule} {context other : Context} (agree : Agree rule context other)
    (kind : RuleKind) (subject : Subject) :
    kind.runOn context rule subject = kind.runOn other rule subject := by
  have aimed := destination_congr agree subject
  cases kind with
  | mustBe => simp only [runOn, run, MustBe.run, agree.clock, agree.disabled, aimed]
  | date =>
    simp only [runOn, run, DateRule.run, DateRule.runBound, agree.clock, agree.disabled, aimed]

end RuleKind

end RecordRules
