import RecordRules.Engine.Basic
import RecordRules.Proofs.Record.Filing
import RecordRules.Proofs.Rule.Changes
import RecordRules.Proofs.Rule.Filing
import RecordRules.Proofs.Value.Lookup

/-!
# Accounts of runs

An engine that returns has run each of its rules: an account says of each what it found, what became
of it and what it filed. Each rule finds what those before it have left (`Accounted`). What an engine
does is read off the accounts: the entries of the record afterwards (`entries_validate`), its status,
and the outcome (`validate_ok_iff_tells`).
-/

namespace RecordRules

/-! ## Outcomes -/

namespace Outcome

/-- The rules that an outcome lists under a standing. -/
def rulesOf (outcome : Outcome) : Engine.Standing → List String
  | .passed => outcome.passedRules
  | .failed => outcome.failedRules
  | .warned => outcome.warnings
  | .skipped => outcome.skippedRules

theorem asTexts_texts_iff {texts found : List String} :
    asTexts (.list (texts.map .text)) = .ok found ↔ found = texts := by
  rw [asTexts, Checked.asListOf_list_ok_iff, List.forall₂_map_left_iff]
  simp only [Value.asText, Except.ok.injEq, List.forall₂_eq_eq_eq, eq_comm]

/-- Failed rules contradict no verdict that is read off them. -/
theorem consistent_ok_iff {names : List Value} {found : List String} :
    consistent (.ok names.isEmpty) (.list names) = .ok found ↔
      asTexts (.list names) = .ok found := by
  unfold consistent
  cases read : asTexts (.list names) with
  | error problems => simp [Bind.bind, Except.bind]
  | ok failed =>
    have told := Checked.asListOf_list_ok_iff.mp read
    cases none : names.isEmpty with
    | false => simp [Bind.bind, Except.bind]
    | true =>
      obtain rfl := List.isEmpty_iff.mp none
      obtain rfl := List.forall₂_nil_left_iff.mp told
      simp [Bind.bind, Except.bind]

/-- An outcome is made of standings just when every name of a rule is a text. -/
theorem ofStandings_ok_iff {record : Record} {standings : List (Value × Engine.Standing)}
    {outcome : Outcome} :
    ofStandings record standings = .ok outcome ↔
      outcome.record = record.subject.id ∧
      outcome.passed = (Engine.named standings .failed).isEmpty ∧
      (∀ s, List.Forall₂ (fun name told => name.asText = .ok told) (Engine.named standings s)
        (outcome.rulesOf s)) ∧
      outcome.messages = fullMessages record.errors := by
  have id : (Value.text record.subject.id).asText = .ok record.subject.id := rfl
  have verdict : Checked.within (.name "passed")
      (Value.bool (Engine.named standings .failed).isEmpty).asBool
        = .ok (Engine.named standings .failed).isEmpty := rfl
  unfold ofStandings ofFields
  simp only [Entries.required, Entries.optional, Entries.get?, List.find?_cons, Value.same_texts,
    String.reduceBEq, Option.map_some, ok_map_iff, Prod.exists, Checked.both_ok_iff,
    Checked.within_ok_iff, id, verdict, consistent_ok_iff, asTexts_texts_iff, Except.ok.injEq]
  simp only [asTexts, Checked.asListOf_list_ok_iff]
  constructor
  · rintro ⟨_, _, _, _, _, _, _, ⟨rfl, rfl, passed, failed, warned, skipped, rfl⟩, rfl⟩
    refine ⟨rfl, rfl, fun s => ?_, rfl⟩
    cases s with
    | passed => exact passed
    | failed => exact failed
    | warned => exact warned
    | skipped => exact skipped
  · rintro ⟨recordIs, passedIs, lists, messagesAre⟩
    exact ⟨_, _, _, _, _, _, _, ⟨recordIs.symm, passedIs.symm, lists .passed, lists .failed,
      lists .warned, lists .skipped, messagesAre⟩, rfl⟩

end Outcome

/-! ## Accounts -/

namespace Engine

/-- What a rule found of a record, what became of it, and what it filed. -/
structure Account where
  installed : Installed
  found : Subject
  standing : Standing
  filed : List (Collection × Entry)

/-- What became of a rule: it was skipped, or ran and stands as its verdict and weight have it. -/
inductive Stood (context : Context) (subject : Subject) (i : Installed) :
    List (Collection × Entry) → Standing → Prop where
  | skipped (off : context.registry.isDisabled i.rule.name = .ok true) :
      Stood context subject i [] .skipped
  | passed {filed : List (Collection × Entry)}
      (yields : (i.kind.runOn context i.rule subject).Yields filed true) :
      Stood context subject i filed .passed
  | warned {filed : List (Collection × Entry)}
      (yields : (i.kind.runOn context i.rule subject).Yields filed false)
      (mild : i.severity = .warning || context.registry.isNotice i.rule.name) :
      Stood context subject i filed .warned
  | failed {filed : List (Collection × Entry)}
      (yields : (i.kind.runOn context i.rule subject).Yields filed false)
      (grave : (i.severity = .warning || context.registry.isNotice i.rule.name) = false) :
      Stood context subject i filed .failed

theorem stood_of_yields {context : Context} {subject : Subject} {i : Installed}
    {filed : List (Collection × Entry)} {standing : Standing}
    (came : (stand context subject i).Yields filed standing) :
    Stood context subject i filed standing := by
  unfold stand at came
  obtain ⟨off, known, rest⟩ := Run.yields_lift_bind_iff.mp came
  cases off with
  | true =>
    obtain ⟨rfl, rfl⟩ := Run.yields_pure_iff.mp rest
    exact .skipped known
  | false =>
    obtain ⟨verdict, own, others, yields, stands, rfl⟩ := Run.yields_bind_iff.mp rest
    cases verdict with
    | true =>
      obtain ⟨rfl, rfl⟩ := Run.yields_pure_iff.mp stands
      rw [List.append_nil]
      exact .passed yields
    | false =>
      simp only [Bool.false_eq_true, reduceIte] at stands
      split at stands
      next mild =>
        obtain ⟨rfl, rfl⟩ := Run.yields_pure_iff.mp stands
        rw [List.append_nil]
        exact .warned yields mild
      next grave =>
        obtain ⟨rfl, rfl⟩ := Run.yields_pure_iff.mp stands
        rw [List.append_nil]
        exact .failed yields (Bool.eq_false_iff.mpr grave)

theorem enabled_of_yields {context : Context} {subject : Subject} {i : Installed}
    {filed : List (Collection × Entry)} {standing : Standing}
    (came : (stand context subject i).Yields filed standing) (ran : standing ≠ .skipped) :
    context.registry.isDisabled i.rule.name = .ok false := by
  unfold stand at came
  obtain ⟨off, known, rest⟩ := Run.yields_lift_bind_iff.mp came
  cases off with
  | true => exact absurd (Run.yields_pure_iff.mp rest).2.symm ran
  | false => exact known

/-- A rule stands as its verdict and weight have it, unless it is skipped. -/
theorem yields_of_stood {context : Context} {subject : Subject} {i : Installed}
    {filed : List (Collection × Entry)} {standing : Standing}
    (stood : Stood context subject i filed standing)
    (on : standing ≠ .skipped → context.registry.isDisabled i.rule.name = .ok false) :
    (stand context subject i).Yields filed standing := by
  have settles : ∀ s : Standing, (Pure.pure s : Run Standing).Yields [] s :=
    fun s => Run.yields_pure_iff.mpr ⟨rfl, rfl⟩
  unfold stand
  rw [Run.yields_lift_bind_iff]
  cases stood with
  | skipped off => exact ⟨true, off, settles .skipped⟩
  | passed yields =>
    refine ⟨false, on (by decide), Run.yields_bind_iff.mpr ⟨true, filed, [], yields, ?_, by simp⟩⟩
    exact settles .passed
  | warned yields mild =>
    refine ⟨false, on (by decide), Run.yields_bind_iff.mpr ⟨false, filed, [], yields, ?_, by simp⟩⟩
    simpa only [Bool.false_eq_true, reduceIte, mild] using settles .warned
  | failed yields grave =>
    refine ⟨false, on (by decide), Run.yields_bind_iff.mpr ⟨false, filed, [], yields, ?_, by simp⟩⟩
    simpa only [Bool.false_eq_true, reduceIte, grave] using settles .failed

/-- What a rule leaves of a subject. -/
def left (context : Context) (subject : Subject) (i : Installed) : Subject :=
  subject.changed (stand context subject i).changes

/-- Accounts of rules that run in order: one for each, as it ran on what those before it left. -/
inductive Accounted (context : Context) : Subject → List Installed → List Account → Prop where
  | nil {subject : Subject} : Accounted context subject [] []
  | cons {subject : Subject} {i : Installed} {standing : Standing}
      {filed : List (Collection × Entry)} {rest : List Installed} {accounts : List Account}
      (ran : (stand context subject i).Yields filed standing)
      (later : Accounted context (left context subject i) rest accounts) :
      Accounted context subject (i :: rest) (⟨i, subject, standing, filed⟩ :: accounts)

namespace Accounted

variable {context : Context} {subject : Subject} {rules : List Installed} {accounts : List Account}

theorem rules_eq (accounted : Accounted context subject rules accounts) :
    accounts.map (·.installed) = rules := by
  induction accounted with
  | nil => rfl
  | cons ran later ih => rw [List.map_cons, ih]

/-- Every rule has run on what it found. -/
theorem ran (accounted : Accounted context subject rules accounts) :
    ∀ a ∈ accounts, (stand context a.found a.installed).Yields a.filed a.standing := by
  induction accounted with
  | nil => simp
  | cons ran later ih => exact List.forall_mem_cons.mpr ⟨ran, ih⟩

/-- What rules leave of a subject, each of what those before it left. -/
theorem changed_eq (accounted : Accounted context subject rules accounts) :
    subject.changed (standings context subject rules).changes
      = rules.foldl (left context) subject := by
  induction accounted with
  | nil => rfl
  | @cons subject i standing filed rest accounts ran later ih =>
    unfold standings
    rw [Run.bind_of_ok ran.2]
    dsimp only
    rw [Run.changes_bind_of_nil _ fun _ => rfl, Subject.changed_append]
    exact ih

end Accounted

/-- What a rule changes is what it changes when it runs. -/
theorem changes_stand {context : Context} (subject : Subject) {i : Installed} {off : Bool}
    (known : context.registry.isDisabled i.rule.name = .ok off) :
    (stand context subject i).changes
      = if off then [] else (i.kind.runOn context i.rule subject).changes := by
  unfold stand
  rw [known, Run.lift_ok_bind]
  cases off with
  | true => rfl
  | false =>
    simp only [Bool.false_eq_true, reduceIte]
    refine Run.changes_bind_of_nil _ fun verdict => ?_
    cases verdict with
    | true => rfl
    | false =>
      simp only [Bool.false_eq_true, reduceIte]
      split <;> rfl

/-- A rule leaves the same in two contexts if it does when it runs. -/
theorem left_congr {context later : Context} {subject : Subject} {i : Installed}
    (disabled : later.registry.isDisabled i.rule.name = context.registry.isDisabled i.rule.name)
    (changes : (i.kind.runOn later i.rule subject).changes
      = (i.kind.runOn context i.rule subject).changes) :
    left later subject i = left context subject i := by
  suffices same : (stand later subject i).changes = (stand context subject i).changes by
    rw [left, same, left]
  cases known : context.registry.isDisabled i.rule.name with
  | ok off => rw [changes_stand subject known, changes_stand subject (disabled.trans known), changes]
  | error e =>
    have stops : ∀ {context : Context}, context.registry.isDisabled i.rule.name = .error e →
        (stand context subject i).changes = [] := by
      intro context known
      unfold stand
      rw [known, Run.bind_of_error rfl]
      rfl
    rw [stops known, stops (disabled.trans known)]

/-- A gentle rule leaves a subject as it was. -/
theorem left_of_gentle {i : Installed} (gentle : i.rule.Gentle) (context : Context)
    (subject : Subject) : left context subject i = subject :=
  gentle.changed_eq (writes_stand context subject i).changes

theorem foldl_left_of_gentle {rules : List Installed} (gentle : ∀ i ∈ rules, i.rule.Gentle)
    (context : Context) (subject : Subject) : rules.foldl (left context) subject = subject := by
  induction rules with
  | nil => rfl
  | cons i rest ih =>
    obtain ⟨first, others⟩ := List.forall_mem_cons.mp gentle
    rw [List.foldl_cons, left_of_gentle first]
    exact ih others

/-- The accounts of a standing. -/
def ofStanding (accounts : List Account) (s : Standing) : List Account :=
  accounts.filter fun a => a.standing = s

/-- What the rules filed for a collection, in order. -/
def entriesFor (c : Collection) (accounts : List Account) : List Entry :=
  accounts.flatMap fun a => c.among a.filed

/-- Rules run in order return just when each of them does, and file what each of them files. -/
theorem standings_yields_iff {context : Context} {subject : Subject} {rules : List Installed}
    {filed : List (Collection × Entry)} {result : List (Value × Standing)} :
    (standings context subject rules).Yields filed result ↔
      ∃ accounts, Accounted context subject rules accounts ∧
        filed = accounts.flatMap (·.filed) ∧
        result = accounts.map fun a => (a.installed.name, a.standing) := by
  induction rules generalizing subject filed result with
  | nil =>
    unfold standings
    rw [Run.yields_pure_iff]
    constructor
    · rintro ⟨rfl, rfl⟩
      exact ⟨[], .nil, rfl, rfl⟩
    · rintro ⟨accounts, accounted, rfl, rfl⟩
      cases accounted
      exact ⟨rfl, rfl⟩
  | cons i rest ih =>
    unfold standings
    simp only [Run.yields_bind_iff, Run.yields_pure_iff, ih]
    constructor
    · -- The account of the first rule is put before the accounts of the others.
      rintro ⟨standing, own, _, ran, ⟨_, _, _, later, ⟨rfl, rfl⟩, rfl⟩, rfl⟩
      obtain ⟨accounts, accounted, rfl, rfl⟩ := later
      exact ⟨⟨i, subject, standing, own⟩ :: accounts, .cons ran accounted, by simp, rfl⟩
    · rintro ⟨accounts, accounted, rfl, rfl⟩
      cases accounted with
      | @cons _ _ standing own _ others ran later =>
        exact ⟨standing, own, _, ran, ⟨_, _, _, ⟨others, later, rfl, rfl⟩, ⟨rfl, rfl⟩, rfl⟩,
          by simp⟩

theorem named_map_accounts (accounts : List Account) (s : Standing) :
    named (accounts.map fun a => (a.installed.name, a.standing)) s
      = (ofStanding accounts s).map (·.installed.name) := by
  simp [named, ofStanding, List.filter_map, Function.comp_def]

/-- The names of the rules of some accounts, as texts. -/
def Names (accounts : List Account) (names : List String) : Prop :=
  List.Forall₂ (fun a told => a.installed.name.asText = .ok told) accounts names

/-- What an outcome tells of the accounts of a run over a record. -/
structure Tells (record : Record) (accounts : List Account) (outcome : Outcome) : Prop where
  id : outcome.record = record.subject.id
  passed : outcome.passed = (ofStanding accounts .failed).isEmpty
  lists : ∀ s, Names (ofStanding accounts s) (outcome.rulesOf s)
  messages : outcome.messages = fullMessages (record.errors ++ entriesFor .errors accounts)

/-- An outcome can tell of accounts just when the name of each rule is a text. -/
theorem exists_tells_iff {record : Record} {accounts : List Account} :
    (∃ outcome, Tells record accounts outcome) ↔
      ∀ a ∈ accounts, ∃ text, a.installed.name.asText = .ok text := by
  constructor
  · rintro ⟨outcome, tells⟩ a member
    have listed : a ∈ ofStanding accounts a.standing := by simp [ofStanding, member]
    obtain ⟨text, _, told⟩ := exists_of_mem_left (tells.lists a.standing) a listed
    exact ⟨text, told⟩
  · intro told
    have lists : ∀ s, ∃ names, Names (ofStanding accounts s) names := fun s =>
      exists_forall₂ fun a member => told a (List.mem_filter.mp member).1
    obtain ⟨passed, passedAre⟩ := lists .passed
    obtain ⟨failed, failedAre⟩ := lists .failed
    obtain ⟨warned, warnedAre⟩ := lists .warned
    obtain ⟨skipped, skippedAre⟩ := lists .skipped
    refine ⟨⟨record.subject.id, _, passed, failed, warned, skipped, _⟩, rfl, rfl, ?_, rfl⟩
    intro s
    cases s with
    | passed => exact passedAre
    | failed => exact failedAre
    | warned => exact warnedAre
    | skipped => exact skippedAre

/-- What can be told of some accounts can be told of others of the same rules, whatever has become of
    these. -/
theorem exists_tells_map {record : Record} {accounts : List Account} {outcome : Outcome}
    (tells : Tells record accounts outcome) {change : Account → Account}
    (same : ∀ a, (change a).installed = a.installed) :
    ∃ later, Tells record (accounts.map change) later := by
  refine exists_tells_iff.mpr fun b member => ?_
  obtain ⟨a, there, rfl⟩ := List.mem_map.mp member
  rw [same a]
  exact exists_tells_iff.mp ⟨outcome, tells⟩ a there

theorem among_flatMap (c : Collection) (accounts : List Account) :
    c.among (accounts.flatMap (·.filed)) = entriesFor c accounts := by
  simp [Collection.among, entriesFor, List.filterMap_flatMap]

variable {engine : Engine} {context : Context} {record : Record} {accounts : List Account}

theorem standings_of_accounted
    (accounted : Accounted context record.subject engine.rules accounts) :
    (standings context record.subject engine.rules).Yields (accounts.flatMap (·.filed))
      (accounts.map fun a => (a.installed.name, a.standing)) :=
  standings_yields_iff.mpr ⟨accounts, accounted, rfl, rfl⟩

/-- The entries of a record after a run: those from before and those that the rules filed. -/
theorem entries_validate (accounted : Accounted context record.subject engine.rules accounts)
    (c : Collection) :
    (engine.validate context record).record.entries c
      = record.entries c ++ entriesFor c accounts := by
  obtain ⟨filed, came⟩ := standings_of_accounted accounted
  have added := record.entries_after (standings context record.subject engine.rules) c
  rw [filed, among_flatMap] at added
  unfold validate
  simp only [came]
  rw [← added]
  cases c <;> rfl

theorem subject_validate (accounted : Accounted context record.subject engine.rules accounts) :
    (engine.validate context record).record.subject
      = engine.rules.foldl (left context) record.subject := by
  have came := record.subject_after (standings context record.subject engine.rules)
  rw [accounted.changed_eq] at came
  unfold validate
  dsimp only
  split <;> exact came

theorem status_validate (accounted : Accounted context record.subject engine.rules accounts) :
    (engine.validate context record).record.status
      = if (ofStanding accounts .failed).isEmpty then .valid else .invalid := by
  obtain ⟨filed, came⟩ := standings_of_accounted accounted
  unfold validate
  simp only [came, named_map_accounts, List.isEmpty_map]

/-- An engine returns just when each rule does and the names of all can be told. -/
theorem validate_ok_iff_tells (accounted : Accounted context record.subject engine.rules accounts)
    {outcome : Outcome} :
    (engine.validate context record).outcome = .ok outcome ↔ Tells record accounts outcome := by
  obtain ⟨filed, came⟩ := standings_of_accounted accounted
  have added := record.entries_after (standings context record.subject engine.rules) .errors
  rw [filed, among_flatMap] at added
  unfold validate Checked.orFault
  simp only [came, ok_mapError_iff, Outcome.ofStandings_ok_iff, named_map_accounts,
    List.isEmpty_map, List.forall₂_map_left_iff, Record.subject_after, Subject.id_changed]
  constructor
  · rintro ⟨id, passed, lists, messages⟩
    exact ⟨id, passed, lists, messages.trans (congrArg fullMessages added)⟩
  · rintro ⟨id, passed, lists, messages⟩
    exact ⟨id, passed, lists, messages.trans (congrArg fullMessages added.symm)⟩

theorem accounted_of_validate {outcome : Outcome}
    (returned : (engine.validate context record).outcome = .ok outcome) :
    ∃ accounts, Accounted context record.subject engine.rules accounts := by
  unfold validate at returned
  cases came : (standings context record.subject engine.rules).outcome with
  | error e => simp [came] at returned
  | ok result =>
    obtain ⟨accounts, accounted, _⟩ := standings_yields_iff.mp (Run.yields_of_ok came)
    exact ⟨accounts, accounted⟩

/-- An engine returns just when each of its rules does and all their names are texts. -/
theorem returns_iff :
    (∃ outcome, (engine.validate context record).outcome = .ok outcome) ↔
      ∃ accounts, Accounted context record.subject engine.rules accounts ∧
        ∀ a ∈ accounts, ∃ text, a.installed.name.asText = .ok text := by
  constructor
  · rintro ⟨outcome, returned⟩
    obtain ⟨accounts, accounted⟩ := accounted_of_validate returned
    exact ⟨accounts, accounted, exists_tells_iff.mp
      ⟨outcome, (validate_ok_iff_tells accounted).mp returned⟩⟩
  · rintro ⟨accounts, accounted, told⟩
    obtain ⟨outcome, tells⟩ := exists_tells_iff.mpr told
    exact ⟨outcome, (validate_ok_iff_tells accounted).mpr tells⟩

/-- An engine with one rule, which asks for a start. -/
def startRequired : Engine where
  rules :=
    [{ name := .text "start", severity := .error, kind := .mustBe,
       rule := { field := .text "start",
                 options := [(.text "present", .bool true), (.text "rule_name", .text "start")] } }]

theorem startRequired_returns :
    let context : Context := ⟨.empty, ⟨⟨2024, 5, 1, by decide⟩, 0, none, by decide⟩⟩
    let record : Record := ⟨⟨"A-1", none, none, [], none⟩, [], [], .pending⟩
    ∃ outcome, (startRequired.validate context record).outcome = .ok outcome := by
  intro context record
  simp only [validate, startRequired, standings, stand, RuleKind.runOn, RuleKind.run, MustBe.run,
    Rule.name, Rule.destination, Rule.level, Entries.option, Entries.get?_cons_text,
    Entries.get?_nil, MustBe.judge, MustBe.checks, MustBe.ifGiven, MustBe.givenBounds,
    MustBe.valueLists, MustBe.listed, Outcome.ofStandings, Outcome.ofFields, Entries.required,
    Entries.optional, String.reduceEq, reduceIte]
  exact ⟨_, rfl⟩

end Engine

end RecordRules
