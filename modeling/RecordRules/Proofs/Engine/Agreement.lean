import Mathlib.Data.List.TFAE
import RecordRules.Proofs.Engine.Account
import RecordRules.Proofs.Engine.Building

/-!
# The outcome and the record

Where a rule files its entries is decided by its options and the registry, and how it is reported by
its severity and the registry. For rules without a name or a place of their own the two agree
(`agrees_of_stood`): errors are filed by failed rules, warnings by those that warned, and nothing by
the others. So the outcome tells just what the record holds.
-/

namespace RecordRules

namespace Engine

/-- What an account files. -/
def Account.entries (a : Account) : List Entry := a.filed.map (·.2)

/-- What is filed agrees with what is reported: nothing by a rule that passed or was skipped, one
    entry, or two by a date rule, by any other, in the collection of its standing and under its own
    attribute and name. -/
structure Account.Agrees (a : Account) : Prop where
  silent : a.standing = .passed ∨ a.standing = .skipped → a.filed = []
  counted : a.standing = .failed ∨ a.standing = .warned →
    a.filed.length = 1 ∨ a.installed.kind = .date ∧ a.filed.length = 2
  placed : ∀ filed ∈ a.filed, filed.1 = if a.standing = .warned then .warnings else .errors
  own : ∀ filed ∈ a.filed, a.installed.rule.field.asText = .ok filed.2.name ∧
    filed.2.ruleName = a.installed.name

/-! ## One rule -/

theorem placed_of_filing {kind : RuleKind} {rule : Rule} {registry : Registry} {subject : Subject}
    {filed : List (Collection × Entry)} {verdict : Bool} {c : Collection}
    (filing : kind.Filing rule registry subject filed verdict)
    (aimed : rule.destination registry subject = .ok (.collection c)) :
    ∀ entry ∈ filed, entry.1 = c := by
  intro entry member
  have same := (filing.files entry member).aimed.symm.trans aimed
  exact Destination.collection.inj (Except.ok.inj same)

theorem own_of_filing {i : Installed} {registry : Registry} {subject : Subject}
    {filed : List (Collection × Entry)} {verdict : Bool} (named : i.rule.name = i.name)
    (filing : i.kind.Filing i.rule registry subject filed verdict) :
    ∀ entry ∈ filed, i.rule.field.asText = .ok entry.2.name ∧ entry.2.ruleName = i.name := by
  intro entry member
  have files := filing.files entry member
  exact ⟨files.field, files.ruleName.trans named⟩

/-- Nothing is filed by a rule that passed or was skipped, and what any other rule files is in the
    collection of its standing. -/
structure Account.Placed (a : Account) : Prop where
  silent : a.standing = .passed ∨ a.standing = .skipped → a.filed = []
  placed : ∀ filed ∈ a.filed, filed.1 = if a.standing = .warned then .warnings else .errors

theorem placed_of_stood {context : Context} {subject : Subject} {a : Account}
    (aimed : a.installed.rule.destination context.registry subject = .ok (.collection
      (if a.installed.severity = .warning || context.registry.isNotice a.installed.rule.name
        then .warnings else .errors)))
    (stood : Stood context subject a.installed a.filed a.standing) : a.Placed := by
  obtain ⟨i, found, standing, filed⟩ := a
  dsimp only at aimed stood
  cases stood with
  | skipped off => exact ⟨fun _ => rfl, by simp⟩
  | passed yields =>
    obtain rfl := (RuleKind.filing_of_runOn yields).passed rfl
    exact ⟨fun _ => rfl, by simp⟩
  | warned yields mild =>
    rw [if_pos mild] at aimed
    exact ⟨by simp, placed_of_filing (RuleKind.filing_of_runOn yields) aimed⟩
  | failed yields grave =>
    rw [if_neg (Bool.eq_false_iff.mp grave)] at aimed
    exact ⟨by simp, placed_of_filing (RuleKind.filing_of_runOn yields) aimed⟩

theorem agrees_of_stood {context : Context} {subject : Subject} {a : Account}
    (named : a.installed.rule.name = a.installed.name)
    (aimed : a.installed.rule.destination context.registry subject = .ok (.collection
      (if a.installed.severity = .warning || context.registry.isNotice a.installed.rule.name
        then .warnings else .errors)))
    (stood : Stood context subject a.installed a.filed a.standing) : a.Agrees := by
  obtain ⟨silent, placed⟩ := placed_of_stood aimed stood
  obtain ⟨i, found, standing, filed⟩ := a
  dsimp only at named stood silent placed
  cases stood with
  | skipped off => exact ⟨silent, by simp, placed, by simp⟩
  | passed yields =>
    exact ⟨silent, by simp, placed, own_of_filing named (RuleKind.filing_of_runOn yields)⟩
  | warned yields mild =>
    have filing := RuleKind.filing_of_runOn yields
    exact ⟨silent, fun _ => filing.failed rfl, placed, own_of_filing named filing⟩
  | failed yields grave =>
    have filing := RuleKind.filing_of_runOn yields
    exact ⟨silent, fun _ => filing.failed rfl, placed, own_of_filing named filing⟩

theorem Account.Agrees.isPlaced {a : Account} (agrees : a.Agrees) : a.Placed :=
  ⟨agrees.silent, agrees.placed⟩

theorem agrees_of_declares {declarations : List Entries} {context : Context} {subject : Subject}
    {rules : List Installed} {accounts : List Account}
    (declares : List.Forall₂ Installed.Declares declarations rules)
    (unnamed : ∀ entries ∈ declarations, Installed.Unnamed entries)
    (accounted : Accounted context subject rules accounts) : ∀ a ∈ accounts, a.Agrees := by
  intro a member
  have there : a.installed ∈ rules := accounted.rules_eq ▸ List.mem_map_of_mem member
  obtain ⟨entries, declared, declaresIt⟩ := exists_of_mem_left declares.flip a.installed there
  have unnamedIt := unnamed entries declared
  exact agrees_of_stood (Installed.name_of_unnamed declaresIt unnamedIt)
    (Installed.destination_of_unnamed declaresIt unnamedIt context.registry a.found)
    (stood_of_yields (accounted.ran a member))

/-! ## All rules -/

theorem among_of_placed {filed : List (Collection × Entry)} {d : Collection}
    (placed : ∀ entry ∈ filed, entry.1 = d) (c : Collection) :
    c.among filed = if d = c then filed.map (·.2) else [] := by
  induction filed with
  | nil => simp [Collection.among]
  | cons entry rest ih =>
    have others := ih fun other member => placed other (List.mem_cons_of_mem entry member)
    obtain ⟨own, e⟩ := entry
    obtain rfl : own = d := placed _ List.mem_cons_self
    unfold Collection.among at others ⊢
    rw [List.filterMap_cons, others]
    by_cases same : own = c <;> simp [same]

/-- The standing that a failure has if it is filed in a collection. -/
def standingOf : Collection → Standing
  | .errors => .failed
  | .warnings => .warned

theorem among_of_standing {a : Account} (placed : a.Placed) (c : Collection) :
    c.among a.filed = if a.standing = standingOf c then a.entries else [] := by
  rw [among_of_placed placed.placed c]
  obtain ⟨i, found, standing, filed⟩ := a
  cases standing with
  | passed =>
    obtain rfl : filed = [] := placed.silent (.inl rfl)
    cases c <;> simp [standingOf]
  | skipped =>
    obtain rfl : filed = [] := placed.silent (.inr rfl)
    cases c <;> simp [standingOf]
  | failed => cases c <;> simp [standingOf, Account.entries]
  | warned => cases c <;> simp [standingOf, Account.entries]

/-- The entries of a collection are those of the rules that stand accordingly. -/
theorem entriesFor_of_placed {accounts : List Account} (placed : ∀ a ∈ accounts, a.Placed)
    (c : Collection) :
    entriesFor c accounts = (ofStanding accounts (standingOf c)).flatMap Account.entries := by
  induction accounts with
  | nil => rfl
  | cons a rest ih =>
    have others := ih fun b member => placed b (List.mem_cons_of_mem a member)
    have first := among_of_standing (placed a List.mem_cons_self) c
    unfold entriesFor ofStanding at others ⊢
    rw [List.flatMap_cons, others, first]
    by_cases stands : a.standing = standingOf c <;> simp [stands]

theorem entriesFor_of_agrees {accounts : List Account} (agree : ∀ a ∈ accounts, a.Agrees)
    (c : Collection) :
    entriesFor c accounts = (ofStanding accounts (standingOf c)).flatMap Account.entries :=
  entriesFor_of_placed (fun a member => (agree a member).isPlaced) c

/-- Failed rules have filed something each. -/
theorem entries_eq_nil_iff {accounts : List Account} (agree : ∀ a ∈ accounts, a.Agrees) :
    (ofStanding accounts .failed).flatMap Account.entries = [] ↔
      ofStanding accounts .failed = [] := by
  constructor
  · intro nothing
    refine List.eq_nil_iff_forall_not_mem.mpr fun a member => ?_
    have empty := List.flatMap_eq_nil_iff.mp nothing a member
    obtain ⟨there, stands⟩ := List.mem_filter.mp member
    have counted := (agree a there).counted (.inl (of_decide_eq_true stands))
    rw [Account.entries, List.map_eq_nil_iff] at empty
    simp [empty] at counted
  · intro nothing
    rw [nothing]
    rfl

variable {engine : Engine} {context : Context} {record : Record} {accounts : List Account}
  {outcome : Outcome}

/-- What a collection that was empty holds after a run. -/
theorem entries_validate_of_agrees
    (accounted : Accounted context record.subject engine.rules accounts)
    (agree : ∀ a ∈ accounts, a.Agrees) {c : Collection} (empty : record.entries c = []) :
    (engine.validate context record).record.entries c
      = (ofStanding accounts (standingOf c)).flatMap Account.entries := by
  rw [entries_validate accounted c, entriesFor_of_agrees agree, empty, List.nil_append]

/-- Five ways of telling that no rule failed. -/
theorem tfae_of_agrees (accounted : Accounted context record.subject engine.rules accounts)
    (tells : Tells record accounts outcome) (agree : ∀ a ∈ accounts, a.Agrees)
    (noErrors : record.errors = []) :
    [outcome.passed = true, outcome.failedRules = [],
      (engine.validate context record).record.errors = [], outcome.messages = [],
      (engine.validate context record).record.status = .valid].TFAE := by
  have passed : outcome.passed = true ↔ ofStanding accounts .failed = [] := by
    rw [tells.passed, List.isEmpty_iff]
  have failed : outcome.failedRules = [] ↔ ofStanding accounts .failed = [] := by
    have counts := (tells.lists .failed).length_eq
    rw [← List.length_eq_zero_iff, ← List.length_eq_zero_iff, counts]
    rfl
  have filed : (engine.validate context record).record.errors = [] ↔
      ofStanding accounts .failed = [] := by
    have errors := entries_validate_of_agrees accounted agree (c := .errors) noErrors
    rw [← entries_eq_nil_iff agree]
    exact Eq.congr_left errors
  have told : outcome.messages = [] ↔ ofStanding accounts .failed = [] := by
    rw [tells.messages, noErrors, entriesFor_of_agrees agree, fullMessages, List.map_eq_nil_iff]
    exact entries_eq_nil_iff agree
  have settled : (engine.validate context record).record.status = .valid ↔
      ofStanding accounts .failed = [] := by
    rw [status_validate accounted, ← List.isEmpty_iff]
    cases (ofStanding accounts .failed).isEmpty <;> simp
  refine List.tfae_of_forall (ofStanding accounts .failed = []) _ fun way member => ?_
  simp only [List.mem_cons, List.not_mem_nil, or_false] at member
  rcases member with rfl | rfl | rfl | rfl | rfl
  · exact passed
  · exact failed
  · exact filed
  · exact told
  · exact settled

/-- The outcome of a run over a record without entries and the record afterwards do not contradict
    each other: every rule has one standing, the rules of each standing are listed in order, errors
    and warnings are the entries of the rules that failed and warned, and the five ways of telling
    that nothing failed come to the same. -/
theorem outcome_agrees_with_record {declarations : List Entries}
    (built : build (.list (declarations.map .dict)) = .ok engine)
    (unnamed : ∀ entries ∈ declarations, Installed.Unnamed entries)
    (noErrors : record.errors = []) (noWarnings : record.warnings = [])
    (returned : (engine.validate context record).outcome = .ok outcome) :
    List.Forall₂ Installed.Declares (declarations.filter Installed.enabled) engine.rules ∧
    ∃ accounts, Accounted context record.subject engine.rules accounts ∧
      (∀ s, Names (ofStanding accounts s) (outcome.rulesOf s)) ∧
      (∀ a ∈ accounts, a.Agrees) ∧
      (engine.validate context record).record.errors
        = (ofStanding accounts .failed).flatMap Account.entries ∧
      (engine.validate context record).record.warnings
        = (ofStanding accounts .warned).flatMap Account.entries ∧
      [outcome.passed = true, outcome.failedRules = [],
        (engine.validate context record).record.errors = [], outcome.messages = [],
        (engine.validate context record).record.status = .valid].TFAE := by
  have declares := Installed.declares_of_build built
  obtain ⟨accounts, accounted⟩ := accounted_of_validate returned
  have tells := (validate_ok_iff_tells accounted).mp returned
  have enabledUnnamed : ∀ entries ∈ declarations.filter Installed.enabled,
      Installed.Unnamed entries :=
    fun entries member => unnamed entries (List.mem_filter.mp member).1
  have agree := agrees_of_declares declares enabledUnnamed accounted
  have errors := entries_validate_of_agrees accounted agree (c := .errors) noErrors
  have warnings := entries_validate_of_agrees accounted agree (c := .warnings) noWarnings
  exact ⟨declares, accounts, accounted, tells.lists, agree, errors, warnings,
    tfae_of_agrees accounted tells agree noErrors⟩

/-- A rule that asks for a start, as it is declared. -/
def startDeclared : Entries :=
  [(.text "rule_name", .text "start"), (.text "rule_type", .text "must_be"),
    (.text "field_name", .text "start"),
    (.text "parameters", .dict [(.text "present", .bool true)])]

theorem startDeclared_agrees :
    let context : Context := ⟨.empty, ⟨⟨2024, 5, 1, by decide⟩, 0, none, by decide⟩⟩
    let record : Record := ⟨⟨"A-1", none, none, [], none⟩, [], [], .pending⟩
    build (.list ([startDeclared].map .dict)) = .ok startRequired ∧
      ∃ outcome, (startRequired.validate context record).outcome = .ok outcome ∧
        (outcome.passed = true ↔ (startRequired.validate context record).record.errors = []) := by
  intro context record
  have built : build (.list ([startDeclared].map .dict)) = .ok startRequired := by
    simp [build, Value.iterate, Installed.ofDeclaration, Installed.ofEntries, startDeclared,
      startRequired, Entries.demand, Entries.option, Entries.get?_cons_text, Entries.get?_nil,
      RuleKind.ofValue?, RuleKind.text, Severity.ofValue?, Installed.options, Entries.putDefault,
      Entries.has, Entries.put, Value.asKey_text, Value.same_texts, Value.truthy, Value.orElse,
      Value.asEntries, Bind.bind, Except.bind, Pure.pure, Except.pure]
  have unnamed : ∀ entries ∈ [startDeclared], Installed.Unnamed entries := by
    intro entries member declared isDeclared
    obtain rfl := List.mem_singleton.mp member
    simp only [Installed.parameters, startDeclared, Entries.option, Entries.get?_cons_text,
      String.reduceEq, reduceIte] at isDeclared
    obtain rfl := Except.ok.inj isDeclared
    simp [Entries.has, Entries.get?_cons_text, Entries.get?_nil]
  obtain ⟨outcome, returned⟩ := startRequired_returns
  obtain ⟨_, _, _, _, _, _, _, same⟩ :=
    outcome_agrees_with_record built unnamed rfl rfl returned
  exact ⟨built, outcome, returned, same.out 0 2⟩

end Engine

end RecordRules
