import RecordRules.Proofs.Rule.Report

/-!
# What date rules come to

The kind of a value decides what a date rule does with it: no value is what was received and did not
read as a date, values of other kinds pass, and a date is held against both bounds
(`DateRule.settled_by_kind`). The two bounds are one list of sides, each with what its bound says
against the date, if anything (`objections`); the rule passes if all of them are silent, and files
one entry for each that is not.
-/

namespace RecordRules

/-- The entry that a rule makes of a message: on its attribute, under its name. -/
structure Rule.EntryFor (rule : Rule) (message : Value) (entry : Entry) : Prop where
  field : rule.field.asText = .ok entry.name
  text : message.asText = .ok entry.message
  named : entry.metadata = [("rule_name", rule.name)]

/-- Entries that all go where the failures of a rule go are in one collection. -/
theorem Rule.exists_collection {rule : Rule} {registry : Registry} {subject : Subject}
    {filed : List (Collection × Entry)}
    (files : ∀ entry ∈ filed, rule.Files registry subject entry) :
    ∃ c, (filed ≠ [] → rule.destination registry subject = .ok (.collection c)) ∧
      filed = (filed.map Prod.snd).map (c, ·) := by
  cases filed with
  | nil => exact ⟨.errors, fun some => absurd rfl some, rfl⟩
  | cons first rest =>
    have aimed := (files first List.mem_cons_self).aimed
    refine ⟨first.1, fun _ => aimed, ?_⟩
    rw [List.map_map, eq_comm]
    refine (List.map_congr_left fun entry member => ?_).trans (List.map_id _)
    have same := aimed.symm.trans (files entry member).aimed
    simp only [Except.ok.injEq, Destination.collection.injEq] at same
    exact Prod.ext same rfl

namespace DateRule

variable {context : Context} {rule : Rule} {subject : Subject} {value asReceived : Value}
  {verdict : Bool} {filed : List (Collection × Entry)} {d : Direction}

/-- A bound that is not given, or that the date satisfies. -/
def Silent (context : Context) (rule : Rule) (subject : Subject) (value asReceived : Value)
    (d : Direction) : Prop :=
  rule.options.option d.text ≠ .null →
    Bound.evaluate subject context.clock value asReceived (rule.options.option d.text) d
      (rule.options.option "time").truthy = .ok none

/-- What the bound on a side says against a date, if it is given and rejects the date. -/
def objection? (context : Context) (rule : Rule) (subject : Subject) (value asReceived : Value)
    (d : Direction) : Option String :=
  match rule.options.option d.text with
  | .null => none
  | bound =>
    match Bound.evaluate subject context.clock value asReceived bound d
        (rule.options.option "time").truthy with
    | .ok evaluation => evaluation
    | .error _ => none

/-- The sides of the bounds that reject a date, with what they say: first the one to come after. -/
def objections (context : Context) (rule : Rule) (subject : Subject) (value asReceived : Value) :
    List (Direction × String) :=
  [Direction.after, .before].filterMap fun d =>
    (objection? context rule subject value asReceived d).map (d, ·)

/-- What a rule says of a bound that rejects a date: its own words for the side, or those of the
    bound. -/
def wording (rule : Rule) (d : Direction) (failure : String) : Value :=
  (rule.options.option (d.text ++ "_message")).orElse (.text (failure ++ "."))

/-- That what was received may stand for no date: it is blank, and the rule allows that. -/
def MayBeBlank (rule : Rule) (asReceived : Value) : Prop :=
  asReceived.isBlank = true ∧ (rule.options.option "allow_blank").truthy = true

/-- What an enabled rule makes of a value: its verdict, and the record after it. -/
structure Settled (context : Context) (rule : Rule) (record : Record) (value asReceived : Value)
    (verdict : Bool) (after : Record) : Prop where
  /-- Where nothing may be given, no value passes. -/
  blank : value = .null → MayBeBlank rule asReceived → verdict = true ∧ after = record
  /-- What did not read as a date fails with one entry, in the words of the rule or those for what
      does not read. -/
  unread : value = .null → ¬MayBeBlank rule asReceived → verdict = false ∧
    ∃ c entry shown, Bound.shown asReceived = .ok shown ∧
      rule.destination context.registry record.subject = .ok (.collection c) ∧
      rule.EntryFor ((rule.options.option "message").orElse
        (.text (unreadable (rule.options.option "time").truthy shown))) entry ∧
      after = record.add c entry
  /-- Values of other kinds pass. -/
  otherKind : value ≠ .null → value.isDate = false → verdict = true ∧ after = record
  /-- A date is held against each bound that is given, and nothing stops that. -/
  decided : value.isDate = true → ∀ d : Direction, rule.options.option d.text ≠ .null →
    ∃ evaluation, Bound.evaluate record.subject context.clock value asReceived
      (rule.options.option d.text) d (rule.options.option "time").truthy = .ok evaluation
  /-- A date passes if no bound rejects it, and there is one entry for each bound that does. -/
  held : value.isDate = true →
    (verdict = true ↔ ∀ d, Silent context rule record.subject value asReceived d) ∧
    ∃ c entries,
      (entries ≠ [] → rule.destination context.registry record.subject = .ok (.collection c)) ∧
      List.Forall₂ (fun o entry => rule.EntryFor (wording rule o.1 o.2) entry)
        (objections context rule record.subject value asReceived) entries ∧
      after = record.addAll (entries.map (c, ·))

/-- An entry that is filed for an objection. -/
def FiledFor (context : Context) (rule : Rule) (subject : Subject) (objection : Direction × String)
    (filed : Collection × Entry) : Prop :=
  rule.Files context.registry subject filed ∧
    (wording rule objection.1 objection.2).asText = .ok filed.2.message

theorem silent_iff_of_boundRan
    (ran : BoundRan context rule subject value asReceived d filed verdict) :
    verdict = true ↔ Silent context rule subject value asReceived d := by
  cases ran with
  | absent notGiven => exact ⟨fun _ given => absurd notGiven given, fun _ => rfl⟩
  | accepted given evaluated => exact ⟨fun _ _ => evaluated, fun _ => rfl⟩
  | rejected given evaluated files text =>
    refine ⟨fun impossible => absurd impossible Bool.false_ne_true, fun silent => ?_⟩
    cases evaluated.symm.trans (silent given)

theorem exists_evaluation_of_boundRan
    (ran : BoundRan context rule subject value asReceived d filed verdict)
    (given : rule.options.option d.text ≠ .null) :
    ∃ evaluation, Bound.evaluate subject context.clock value asReceived
      (rule.options.option d.text) d (rule.options.option "time").truthy = .ok evaluation := by
  cases ran with
  | absent notGiven => exact absurd notGiven given
  | accepted _ evaluated => exact ⟨none, evaluated⟩
  | rejected _ evaluated _ _ => exact ⟨_, evaluated⟩

theorem objection?_of_given {evaluation : Option String}
    (given : rule.options.option d.text ≠ .null)
    (evaluated : Bound.evaluate subject context.clock value asReceived
      (rule.options.option d.text) d (rule.options.option "time").truthy = .ok evaluation) :
    objection? context rule subject value asReceived d = evaluation := by
  unfold objection?
  split
  next absent => exact absurd absent given
  next => rw [evaluated]

/-- A bound files an entry for what it says against a date. -/
theorem filedFor_of_boundRan
    (ran : BoundRan context rule subject value asReceived d filed verdict) :
    List.Forall₂ (FiledFor context rule subject)
      ((objection? context rule subject value asReceived d).map (d, ·)).toList filed := by
  cases ran with
  | absent notGiven =>
    have none : objection? context rule subject value asReceived d = none := by
      unfold objection?
      rw [notGiven]
    rw [none]
    exact .nil
  | accepted given evaluated =>
    rw [objection?_of_given given evaluated]
    exact .nil
  | rejected given evaluated files text =>
    rw [objection?_of_given given evaluated]
    exact .cons ⟨files, text⟩ .nil

/-- The two bounds file their entries one after another. -/
theorem filedFor_of_both {filedBefore : List (Collection × Entry)} {verdictBefore : Bool}
    (after : BoundRan context rule subject value asReceived .after filed verdict)
    (before : BoundRan context rule subject value asReceived .before filedBefore verdictBefore) :
    List.Forall₂ (FiledFor context rule subject)
      (objections context rule subject value asReceived) (filed ++ filedBefore) := by
  have parts : objections context rule subject value asReceived =
      ((objection? context rule subject value asReceived .after).map (Direction.after, ·)).toList
        ++ ((objection? context rule subject value asReceived .before).map
          (Direction.before, ·)).toList := by
    simp only [objections, List.filterMap_cons, List.filterMap_nil]
    cases objection? context rule subject value asReceived .after <;>
      cases objection? context rule subject value asReceived .before <;> rfl
  rw [parts]
  exact List.rel_append (filedFor_of_boundRan after) (filedFor_of_boundRan before)

theorem silent_iff_of_both {filedBefore : List (Collection × Entry)} {verdictBefore : Bool}
    (after : BoundRan context rule subject value asReceived .after filed verdict)
    (before : BoundRan context rule subject value asReceived .before filedBefore verdictBefore) :
    (verdict && verdictBefore) = true ↔
      ∀ d, Silent context rule subject value asReceived d := by
  rw [Bool.and_eq_true, silent_iff_of_boundRan after, silent_iff_of_boundRan before]
  constructor
  · rintro ⟨silentAfter, silentBefore⟩ (_ | _)
    · exact silentBefore
    · exact silentAfter
  · intro silent
    exact ⟨silent .after, silent .before⟩

/-- An enabled rule that comes to a verdict has seen what was received. -/
theorem exists_received_of_yields (on : context.registry.isDisabled rule.name = .ok false)
    (yields : (run context rule subject value).Yields filed verdict) :
    ∃ asReceived, subject.received rule.field = .ok asReceived := by
  unfold run at yields
  obtain ⟨off, known, rest⟩ := Run.yields_lift_bind_iff.mp yields
  cases on.symm.trans known
  obtain ⟨asReceived, received, _⟩ := Run.yields_lift_bind_iff.mp rest
  exact ⟨asReceived, received⟩

/-- The entries for the objections of both bounds are all in the collection of the rule. -/
theorem exists_entries_of_filedFor
    (made : List.Forall₂ (FiledFor context rule subject)
      (objections context rule subject value asReceived) filed) :
    ∃ c entries,
      (entries ≠ [] → rule.destination context.registry subject = .ok (.collection c)) ∧
      List.Forall₂ (fun o entry => rule.EntryFor (wording rule o.1 o.2) entry)
        (objections context rule subject value asReceived) entries ∧
      filed = entries.map (c, ·) := by
  have files : ∀ entry ∈ filed, rule.Files context.registry subject entry := by
    intro entry member
    obtain ⟨objection, _, isFiled⟩ := exists_of_mem_left made.flip entry member
    exact isFiled.1
  obtain ⟨c, aimed, same⟩ := Rule.exists_collection files
  refine ⟨c, filed.map Prod.snd, ?_, ?_, same⟩
  · intro some
    exact aimed fun none => some (by rw [none, List.map_nil])
  · refine List.forall₂_map_right_iff.mpr (made.imp ?_)
    rintro objection entry ⟨files, text⟩
    exact ⟨files.field, text, files.named⟩

/-- A value of another kind is settled with nothing filed, and so is no value where that is
    allowed. -/
theorem settled_of_passes (record : Record) (noDate : value.isDate = false)
    (allowed : value = .null → MayBeBlank rule asReceived) :
    Settled context rule record value asReceived true record where
  blank _ _ := ⟨rfl, rfl⟩
  unread isNull refused := absurd (allowed isNull) refused
  otherKind _ _ := ⟨rfl, rfl⟩
  decided isDate := absurd (noDate.symm.trans isDate) Bool.false_ne_true
  held isDate := absurd (noDate.symm.trans isDate) Bool.false_ne_true

/-- What did not read as a date is settled by the one entry for that. -/
theorem settled_of_unread {record : Record} {shown : String} {entry : Collection × Entry}
    (refused : ¬MayBeBlank rule asReceived) (shows : Bound.shown asReceived = .ok shown)
    (files : rule.Files context.registry record.subject entry)
    (text : ((rule.options.option "message").orElse
      (.text (unreadable (rule.options.option "time").truthy shown))).asText
        = .ok entry.2.message) :
    Settled context rule record .null asReceived false (record.add entry.1 entry.2) where
  blank _ mayBe := absurd mayBe refused
  unread _ _ := ⟨rfl, entry.1, entry.2, shown, shows, files.aimed,
    ⟨files.field, text, files.named⟩, rfl⟩
  otherKind there := absurd rfl there
  decided isDate := absurd isDate Bool.false_ne_true
  held isDate := absurd isDate Bool.false_ne_true

/-- A date is settled by its two bounds. -/
theorem settled_of_bounds {record : Record} {filedBefore : List (Collection × Entry)}
    {verdictBefore : Bool} (isDate : value.isDate = true)
    (after : BoundRan context rule record.subject value asReceived .after filed verdict)
    (before : BoundRan context rule record.subject value asReceived .before filedBefore
      verdictBefore) :
    Settled context rule record value asReceived (verdict && verdictBefore)
      (record.addAll (filed ++ filedBefore)) := by
  have there : value ≠ .null := by
    rintro rfl
    cases isDate
  obtain ⟨c, entries, aimed, made, same⟩ :=
    exists_entries_of_filedFor (filedFor_of_both after before)
  exact {
    blank := fun unread => absurd unread there
    unread := fun unread => absurd unread there
    otherKind := fun _ noDate => absurd (noDate.symm.trans isDate) Bool.false_ne_true
    decided := by
      rintro _ (_ | _) given
      · exact exists_evaluation_of_boundRan before given
      · exact exists_evaluation_of_boundRan after given
    held := fun _ => ⟨silent_iff_of_both after before, c, entries, aimed, made,
      congrArg record.addAll same⟩ }

/-- An enabled date rule that comes to a verdict on a record and a value has gone by the kind of the
    value: no value passes if it may be blank and else fails with one entry, other kinds than dates
    pass, and a date is held against both bounds, with one entry for each of them that rejects
    it. -/
theorem settled_by_kind (context : Context) (rule : Rule) (record : Record) (value : Value)
    (verdict : Bool) (on : context.registry.isDisabled rule.name = .ok false)
    (returned : (run context rule record.subject value).outcome = .ok verdict) :
    ∃ asReceived, record.subject.received rule.field = .ok asReceived ∧
      Settled context rule record value asReceived verdict
        (record.after (run context rule record.subject value)) := by
  have yields := Run.yields_of_ok returned
  obtain ⟨asReceived, received⟩ := exists_received_of_yields on yields
  refine ⟨asReceived, received, ?_⟩
  have came := ran_of_yields yields
  rw [record.after_of_still _ (writes_run context rule record.subject value).changes]
  generalize (run context rule record.subject value).filed = filed at came ⊢
  cases came with
  | disabled off => cases on.symm.trans off
  | blank _ unread receivedToo blank allowed =>
    cases received.symm.trans receivedToo
    subst unread
    exact settled_of_passes record rfl fun _ => ⟨blank, allowed⟩
  | unread _ unread receivedToo refused shows files text =>
    cases received.symm.trans receivedToo
    subst unread
    refine settled_of_unread ?_ shows files text
    rintro ⟨blank, allowed⟩
    rw [blank, allowed] at refused
    cases refused
  | other _ there noDate =>
    exact settled_of_passes record noDate fun unread => absurd unread there
  | bounded _ isDate receivedToo after before =>
    cases received.symm.trans receivedToo
    exact settled_of_bounds isDate after before

/-- A rule on a start, which is to lie in a period, with words of its own for one that is early. -/
def inPeriod : Rule where
  field := .text "start"
  options :=
    [(.text "before", .date ⟨2024, 3, 31, by decide⟩),
      (.text "after", .date ⟨2024, 6, 1, by decide⟩),
      (.text "after_message", .text "too early"), (.text "rule_name", .text "period")]

/-- A start that is on the wrong side of both bounds of a period is told so twice, of an early start
    in the words of the rule and first. -/
theorem start_outside_period :
    let context : Context := ⟨.empty, ⟨⟨2024, 6, 15, by decide⟩, 43200000000, none, by decide⟩⟩
    let start : Value := .date ⟨2024, 5, 1, by decide⟩
    let record : Record := ⟨⟨"A-1", none, none, [("start", start)], none⟩, [], [], .pending⟩
    context.registry.isDisabled inPeriod.name = .ok false ∧
      (run context inPeriod record.subject start).outcome = .ok false ∧
      ∃ c first second, record.after (run context inPeriod record.subject start)
          = (record.add c first).add c second ∧
        first.message = "too early" ∧
        second.message = ": 2024-05-01 is not a valid value. Date cannot be after 2024-03-31." := by
  intro context start record
  have on : context.registry.isDisabled inPeriod.name = .ok false := by cbv
  have failed : (run context inPeriod record.subject start).outcome = .ok false := by cbv
  obtain ⟨asReceived, received, settled⟩ :=
    settled_by_kind context inPeriod record start false on failed
  have isStart : record.subject.received inPeriod.field = .ok start := by cbv
  cases received.symm.trans isStart
  obtain ⟨_, c, entries, _, made, added⟩ := settled.held rfl
  have both : objections context inPeriod record.subject start start =
      [(.after, ": 2024-05-01 is not a valid value. Date cannot be before 2024-06-01"),
        (.before, ": 2024-05-01 is not a valid value. Date cannot be after 2024-03-31")] := by cbv
  rw [both] at made
  obtain ⟨first, _, isFirst, rest, rfl⟩ := List.forall₂_cons_left_iff.mp made
  obtain ⟨second, _, isSecond, none, rfl⟩ := List.forall₂_cons_left_iff.mp rest
  obtain rfl := List.forall₂_nil_left_iff.mp none
  refine ⟨on, failed, c, first, second, added, ?_, ?_⟩
  · have own : wording inPeriod .after
        ": 2024-05-01 is not a valid value. Date cannot be before 2024-06-01"
        = .text "too early" := by cbv
    exact (Except.ok.inj ((congrArg Value.asText own).symm.trans isFirst.text)).symm
  · have usual : wording inPeriod .before
        ": 2024-05-01 is not a valid value. Date cannot be after 2024-03-31"
        = .text ": 2024-05-01 is not a valid value. Date cannot be after 2024-03-31." := by cbv
    exact (Except.ok.inj ((congrArg Value.asText usual).symm.trans isSecond.text)).symm

end DateRule

end RecordRules
