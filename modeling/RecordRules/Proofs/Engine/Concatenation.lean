import Mathlib
import RecordRules.Proofs.Engine.Agreement

/-!
# Lists of rules in parts and in other orders

A rule sees of those before it what they have left of the values of a record, and not what they have
filed or come to. So an engine of two lists of rules does on a record what the engines of the two
lists do one after the other. In another order every rule still comes to what it came to and files what
it filed, if no rule changes a value (`concatenation_runs_in_turn`).
-/

namespace RecordRules

namespace Engine

/-! ## Building from parts -/

theorem build_append {declarations others : List Value} {first second : Engine}
    (built : build (.list declarations) = .ok first)
    (builtOthers : build (.list others) = .ok second) :
    build (.list (declarations ++ others)) = .ok ⟨first.rules ++ second.rules⟩ := by
  obtain ⟨found, each, rules⟩ := build_ok_iff.mp built
  obtain ⟨foundOthers, eachOther, rulesOthers⟩ := build_ok_iff.mp builtOthers
  refine build_ok_iff.mpr ⟨found ++ foundOthers, List.rel_append each eachOther, ?_⟩
  rw [rules, rulesOthers, List.filterMap_append]

theorem build_perm {declarations others : List Value} {engine : Engine}
    (reordered : declarations.Perm others) (built : build (.list declarations) = .ok engine) :
    ∃ other, build (.list others) = .ok other ∧ engine.rules.Perm other.rules := by
  obtain ⟨found, each, rules⟩ := build_ok_iff.mp built
  obtain ⟨foundOthers, eachOther, same⟩ := List.perm_comp_forall₂ reordered.symm each
  refine ⟨⟨foundOthers.filterMap id⟩, build_ok_iff.mpr ⟨foundOthers, eachOther, rfl⟩, ?_⟩
  rw [rules]
  exact (same.filterMap id).symm

/-! ## Accounts of parts -/

variable {context : Context} {subject : Subject} {record : Record} {rules others : List Installed}
  {accounts : List Account}

theorem accounted_append_iff :
    Accounted context subject (rules ++ others) accounts ↔
      ∃ first second, accounts = first ++ second ∧
        Accounted context subject rules first ∧
        Accounted context (rules.foldl (left context) subject) others second := by
  induction rules generalizing subject accounts with
  | nil =>
    constructor
    · intro accounted
      exact ⟨[], accounts, rfl, .nil, accounted⟩
    · rintro ⟨first, second, rfl, none, accounted⟩
      cases none
      exact accounted
  | cons i rest ih =>
    constructor
    · intro accounted
      cases accounted with
      | cons ran later =>
        obtain ⟨first, second, rfl, early, late⟩ := ih.mp later
        exact ⟨_ :: first, second, rfl, .cons ran early, late⟩
    · rintro ⟨first, second, rfl, early, late⟩
      cases early with
      | cons ran later => exact .cons ran (ih.mpr ⟨_, second, rfl, later, late⟩)

/-- An account of a rule on a subject. -/
def Account.IsOn (context : Context) (subject : Subject) (i : Installed) (a : Account) : Prop :=
  a.installed = i ∧ a.found = subject ∧ (stand context subject i).Yields a.filed a.standing

/-- Gentle rules all run on the same subject. -/
theorem accounted_iff_of_gentle (gentle : ∀ i ∈ rules, i.rule.Gentle) :
    Accounted context subject rules accounts ↔
      List.Forall₂ (Account.IsOn context subject) rules accounts := by
  induction rules generalizing accounts with
  | nil =>
    rw [List.forall₂_nil_left_iff]
    constructor
    · rintro ⟨⟩
      rfl
    · rintro rfl
      exact .nil
  | cons i rest ih =>
    obtain ⟨first, others⟩ := List.forall_mem_cons.mp gentle
    have kept := left_of_gentle first context subject
    constructor
    · intro accounted
      cases accounted with
      | cons ran later =>
        rw [kept] at later
        exact .cons ⟨rfl, rfl, ran⟩ ((ih others).mp later)
    · intro each
      cases each with
      | @cons _ a _ accounts isOn later =>
        obtain ⟨installed, found, standing, filed⟩ := a
        obtain ⟨rfl, rfl, ran⟩ := isOn
        refine .cons ran ?_
        rw [kept]
        exact (ih others).mpr later

/-- Gentle rules in another order have the same accounts, in that order. -/
theorem exists_accounted_of_perm (reordered : rules.Perm others)
    (gentle : ∀ i ∈ rules, i.rule.Gentle)
    (accounted : Accounted context subject rules accounts) :
    ∃ later, accounts.Perm later ∧ Accounted context subject others later := by
  have each := (accounted_iff_of_gentle gentle).mp accounted
  obtain ⟨later, eachLater, same⟩ := List.perm_comp_forall₂ reordered.symm each
  have gentleOthers : ∀ i ∈ others, i.rule.Gentle :=
    fun i member => gentle i (reordered.mem_iff.mpr member)
  exact ⟨later, same.symm, (accounted_iff_of_gentle gentleOthers).mpr eachLater⟩

theorem ofStanding_append (first second : List Account) (s : Standing) :
    ofStanding (first ++ second) s = ofStanding first s ++ ofStanding second s :=
  List.filter_append ..

theorem entriesFor_append (c : Collection) (first second : List Account) :
    entriesFor c (first ++ second) = entriesFor c first ++ entriesFor c second :=
  List.flatMap_append

theorem names_unique {names told : List String} (named : Names accounts names)
    (again : Names accounts told) : names = told := by
  refine List.right_unique_forall₂' (fun a text other first second => ?_) named again
  exact Except.ok.inj (first.symm.trans second)

/-! ## Runs of parts -/

variable {engine other : Engine} {outcome : Outcome}

/-- The outcome of two runs, one after the other, in one. -/
structure Joins (first second both : Outcome) : Prop where
  ids : both.record = first.record ∧ both.record = second.record
  lists : ∀ s, both.rulesOf s = first.rulesOf s ++ second.rulesOf s
  passed : both.passed = (first.passed && second.passed)
  /-- The second run tells all messages that the record has by then. -/
  messages : both.messages = second.messages

theorem joins_of_tells {first second both : Outcome} {early late : List Account} {between : Record}
    (tellsFirst : Tells record early first) (tellsSecond : Tells between late second)
    (tells : Tells record (early ++ late) both) (same : between.subject.id = record.subject.id)
    (filed : between.errors = record.errors ++ entriesFor .errors early) :
    Joins first second both where
  ids := by
    constructor
    · rw [tells.id, tellsFirst.id]
    · rw [tells.id, tellsSecond.id, same]
  lists s := by
    have named := tells.lists s
    rw [ofStanding_append] at named
    exact names_unique named (List.rel_append (tellsFirst.lists s) (tellsSecond.lists s))
  passed := by
    rw [tells.passed, tellsFirst.passed, tellsSecond.passed, ofStanding_append]
    cases ofStanding early .failed <;> rfl
  messages := by
    rw [tells.messages, tellsSecond.messages, filed, entriesFor_append, List.append_assoc]

section

variable (first second : Engine) (context : Context) (record : Record)

/-- Two lists of rules return as one just when they do one after the other. -/
theorem append_returns_iff :
    (∃ outcome, ((Engine.mk (first.rules ++ second.rules)).validate context record).outcome
        = .ok outcome) ↔
      (∃ outcome, (first.validate context record).outcome = .ok outcome) ∧
        ∃ outcome, (second.validate context (first.validate context record).record).outcome
          = .ok outcome := by
  rw [returns_iff, returns_iff, returns_iff]
  constructor
  · rintro ⟨accounts, accounted, told⟩
    obtain ⟨early, late, rfl, accountedEarly, accountedLate⟩ := accounted_append_iff.mp accounted
    obtain ⟨toldEarly, toldLate⟩ := List.forall_mem_append.mp told
    rw [← subject_validate accountedEarly] at accountedLate
    exact ⟨⟨early, accountedEarly, toldEarly⟩, late, accountedLate, toldLate⟩
  · rintro ⟨⟨early, accountedEarly, toldEarly⟩, late, accountedLate, toldLate⟩
    rw [subject_validate accountedEarly] at accountedLate
    exact ⟨early ++ late,
      accounted_append_iff.mpr ⟨early, late, rfl, accountedEarly, accountedLate⟩,
      List.forall_mem_append.mpr ⟨toldEarly, toldLate⟩⟩

variable {first second context record}

theorem append_joins {early late whole : Outcome}
    (returnedEarly : (first.validate context record).outcome = .ok early)
    (returnedLate :
      (second.validate context (first.validate context record).record).outcome = .ok late)
    (returned :
      ((Engine.mk (first.rules ++ second.rules)).validate context record).outcome = .ok whole) :
    Joins early late whole ∧
      ∀ c, ((Engine.mk (first.rules ++ second.rules)).validate context record).record.entries c
        = (second.validate context (first.validate context record).record).record.entries c := by
  obtain ⟨accounts, accounted⟩ := accounted_of_validate returned
  obtain ⟨before, after, rfl, accountedFirst, accountedAfter⟩ :=
    accounted_append_iff.mp accounted
  have subject := subject_validate accountedFirst
  have accountedSecond : Accounted context (first.validate context record).record.subject
      second.rules after := subject ▸ accountedAfter
  have sameId : (first.validate context record).record.subject.id = record.subject.id := by
    rw [subject, ← accountedFirst.changed_eq, Subject.id_changed]
  constructor
  · exact joins_of_tells ((validate_ok_iff_tells accountedFirst).mp returnedEarly)
      ((validate_ok_iff_tells accountedSecond).mp returnedLate)
      ((validate_ok_iff_tells accounted).mp returned) sameId
      (entries_validate accountedFirst .errors)
  · intro c
    rw [entries_validate accounted, entries_validate accountedSecond,
      entries_validate accountedFirst, entriesFor_append, List.append_assoc]

end

/-- What the accounts of a run say of its outcome and of the record afterwards. -/
structure Reports (engine : Engine) (context : Context) (record : Record) (outcome : Outcome)
    (accounts : List Account) : Prop where
  accounted : Accounted context record.subject engine.rules accounts
  lists : ∀ s, Names (ofStanding accounts s) (outcome.rulesOf s)
  passed : outcome.passed = (ofStanding accounts .failed).isEmpty
  entries : ∀ c, (engine.validate context record).record.entries c
    = record.entries c ++ entriesFor c accounts

theorem reports_of_returned (accounted : Accounted context record.subject engine.rules accounts)
    (returned : (engine.validate context record).outcome = .ok outcome) :
    Reports engine context record outcome accounts where
  accounted := accounted
  lists := ((validate_ok_iff_tells accounted).mp returned).lists
  passed := ((validate_ok_iff_tells accounted).mp returned).passed
  entries := entries_validate accounted

/-- The same gentle rules in another order return with the same accounts in that order. -/
theorem reports_of_perm (reordered : engine.rules.Perm other.rules)
    (gentle : ∀ i ∈ engine.rules, i.rule.Gentle)
    (returned : (engine.validate context record).outcome = .ok outcome) :
    ∃ later accounts accountsLater, (other.validate context record).outcome = .ok later ∧
      accounts.Perm accountsLater ∧ later.passed = outcome.passed ∧
      Reports engine context record outcome accounts ∧
      Reports other context record later accountsLater := by
  obtain ⟨accounts, accounted, told⟩ := returns_iff.mp ⟨outcome, returned⟩
  obtain ⟨accountsLater, same, accountedLater⟩ := exists_accounted_of_perm reordered gentle accounted
  have toldLater := fun a member => told a (same.mem_iff.mpr member)
  obtain ⟨later, returnedLater⟩ := returns_iff.mpr ⟨accountsLater, accountedLater, toldLater⟩
  have reports := reports_of_returned accounted returned
  have reportsLater := reports_of_returned accountedLater returnedLater
  refine ⟨later, accounts, accountsLater, returnedLater, same, ?_, reports, reportsLater⟩
  have failed := same.filter fun a => decide (a.standing = .failed)
  rw [reports.passed, reportsLater.passed, ofStanding, ofStanding, failed.isEmpty_eq]

/-- An engine of two lists of rules does on a record what the engines of the two lists do one after
    the other: it returns just when they do, lists the rules that they list, passes when both pass,
    and leaves the entries that they leave. In any other order gentle rules come to the same and
    file the same, each in its place. -/
theorem concatenation_runs_in_turn {declarations others : List Value} {first second : Engine}
    (built : build (.list declarations) = .ok first)
    (builtOthers : build (.list others) = .ok second) (context : Context) (record : Record) :
    ∃ engine, build (.list (declarations ++ others)) = .ok engine ∧
      let early := first.validate context record
      let late := second.validate context early.record
      let whole := engine.validate context record
      ((∃ outcome, whole.outcome = .ok outcome) ↔
        (∃ outcome, early.outcome = .ok outcome) ∧ ∃ outcome, late.outcome = .ok outcome) ∧
      (∀ outcomeEarly outcomeLate outcome, early.outcome = .ok outcomeEarly →
        late.outcome = .ok outcomeLate → whole.outcome = .ok outcome →
        Joins outcomeEarly outcomeLate outcome ∧
          ∀ c, whole.record.entries c = late.record.entries c) ∧
      ∀ reordered, (declarations ++ others).Perm reordered →
        (∀ i ∈ engine.rules, i.rule.Gentle) →
        ∃ other, build (.list reordered) = .ok other ∧
          ∀ outcome, whole.outcome = .ok outcome →
            ∃ later accounts accountsLater,
              (other.validate context record).outcome = .ok later ∧
              accounts.Perm accountsLater ∧ later.passed = outcome.passed ∧
              Reports engine context record outcome accounts ∧
              Reports other context record later accountsLater := by
  have builtWhole := build_append built builtOthers
  refine ⟨_, builtWhole, append_returns_iff first second context record, ?_, ?_⟩
  · intro outcomeEarly outcomeLate outcome returnedEarly returnedLate returned
    exact append_joins returnedEarly returnedLate returned
  · intro reordered order gentle
    obtain ⟨other, builtOther, rules⟩ := build_perm order builtWhole
    exact ⟨other, builtOther, fun outcome returned => reports_of_perm rules gentle returned⟩

/-- A rule that would like a title, as it is declared. -/
def titleDeclared : Entries :=
  [(.text "rule_name", .text "title"), (.text "rule_type", .text "must_be"),
    (.text "field_name", .text "title"), (.text "severity", .text "warning"),
    (.text "parameters", .dict [(.text "present", .bool true)])]

/-- The engine with that rule. -/
def titleWished : Engine where
  rules :=
    [{ name := .text "title", severity := .warning, kind := .mustBe,
       rule := { field := .text "title",
                 options := [(.text "present", .bool true), (.text "rule_name", .text "title"),
                   (.text "error_level", .text "warnings")] } }]

theorem startThenTitle_runs_in_turn :
    let context : Context := ⟨.empty, ⟨⟨2024, 5, 1, by decide⟩, 0, none, by decide⟩⟩
    let record : Record := ⟨⟨"A-1", none, none, [], none⟩, [], [], .pending⟩
    ∃ engine, build (.list [.dict startDeclared, .dict titleDeclared]) = .ok engine ∧
      ∃ outcome, (engine.validate context record).outcome = .ok outcome ∧
        outcome.failedRules = ["start"] ∧ outcome.warnings = ["title"] := by
  intro context record
  have built : build (.list [.dict startDeclared]) = .ok startRequired := by cbv
  have builtTitle : build (.list [.dict titleDeclared]) = .ok titleWished := by cbv
  have early : (startRequired.validate context record).outcome
      = .ok ⟨"A-1", false, [], ["start"], [], [], ["Start must be present."]⟩ := by cbv
  have late : (titleWished.validate context (startRequired.validate context record).record).outcome
      = .ok ⟨"A-1", true, [], [], ["title"], [], ["Start must be present."]⟩ := by cbv
  obtain ⟨engine, builtBoth, returns, joins, _⟩ :=
    concatenation_runs_in_turn built builtTitle context record
  obtain ⟨outcome, returned⟩ := returns.mpr ⟨⟨_, early⟩, _, late⟩
  obtain ⟨joined, _⟩ := joins _ _ _ early late returned
  exact ⟨engine, builtBoth, outcome, returned, joined.lists .failed, joined.lists .warned⟩

end Engine

end RecordRules
