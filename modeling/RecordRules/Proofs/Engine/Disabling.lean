import Mathlib
import RecordRules.Proofs.Engine.Account
import RecordRules.Proofs.Registry.Setting

/-!
# Disabling rules by name

Disabling a name takes the rules of that name out of a run, and nothing else: they are skipped and
file nothing, while every other rule comes to what it came to before (`stand_disabling_other`). So
an engine that returns still returns, and what is told and filed is what it was without those rules.
Two things can carry further: what a rule has changed is seen by those after it, and settings that two
names share are changed for both (`disabling_reaches_others`).
-/

namespace RecordRules

/-- A context after a name has been disabled. -/
def Context.disabling (context : Context) (name : String) : Context :=
  { context with registry := (context.registry.disable [.text name]).1 }

namespace Engine

/-- Whether an account is of a rule of a name. -/
def Account.isOf (name : String) (a : Account) : Bool :=
  Value.same (.text name) a.installed.rule.name

/-- The account of a rule after its name may have been disabled. -/
def Account.disabling (name : String) (a : Account) : Account :=
  if a.isOf name then { a with standing := .skipped, filed := [] } else a

/-! ## One rule -/

theorem stand_disabling_self {name : String} (filled : name ≠ "") {context : Context}
    (own : context.registry.Own) (subject : Subject) {i : Installed}
    (named : i.rule.name = .text name) :
    (stand (context.disabling name) subject i).Yields [] .skipped := by
  unfold stand
  refine Run.yields_lift_bind_iff.mpr ⟨true, ?_, Run.yields_pure_iff.mpr ⟨rfl, rfl⟩⟩
  rw [named]
  exact Registry.isDisabled_disable_self own filled

theorem agree_disabling {name : String} {context : Context} (own : context.registry.Own) {rule : Rule}
    (other : rule.name ≠ .text name) : RuleKind.Agree rule (context.disabling name) context where
  clock := rfl
  disabled := Registry.isDisabled_disable_other own name other
  notice := Registry.isNotice_disable context.registry name rule.name

theorem stand_disabling_other {name : String} {context : Context} (own : context.registry.Own)
    (subject : Subject) {i : Installed} (other : i.rule.name ≠ .text name) :
    stand (context.disabling name) subject i = stand context subject i := by
  have agree := agree_disabling own other
  simp only [stand, RuleKind.runOn_congr agree, agree.disabled, agree.notice]

/-! ## All rules -/

variable {engine : Engine} {context : Context} {subject : Subject} {record : Record}
  {rules : List Installed} {accounts : List Account} {name : String}

theorem installed_disabling (name : String) (a : Account) :
    (a.disabling name).installed = a.installed := by
  unfold Account.disabling
  split <;> rfl

theorem disabling_of_named {i : Installed} (named : i.rule.name = .text name) (found : Subject)
    (standing : Standing) (filed : List (Collection × Entry)) :
    Account.disabling name ⟨i, found, standing, filed⟩ = ⟨i, found, .skipped, []⟩ :=
  if_pos (by rw [Account.isOf, named, Value.same_text_self])

theorem disabling_of_other {i : Installed} (other : i.rule.name ≠ .text name) (found : Subject)
    (standing : Standing) (filed : List (Collection × Entry)) :
    Account.disabling name ⟨i, found, standing, filed⟩ = ⟨i, found, standing, filed⟩ := by
  refine if_neg fun isOf => other ?_
  exact ((Value.same_text_iff name i.rule.name).mp isOf).symm

/-- Rules that are skipped change nothing; so where those of the name changed nothing before, every
    other rule finds what it found. -/
theorem accounted_disabling (filled : name ≠ "") (own : context.registry.Own)
    (gentle : ∀ i ∈ rules, i.rule.name = .text name → i.rule.Gentle)
    (accounted : Accounted context subject rules accounts) :
    Accounted (context.disabling name) subject rules (accounts.map (·.disabling name)) := by
  induction accounted with
  | nil => exact .nil
  | @cons subject i standing filed rest accounts ran later ih =>
    obtain ⟨first, others⟩ := List.forall_mem_cons.mp gentle
    have accountedLater := ih others
    rw [List.map_cons]
    by_cases named : i.rule.name = .text name
    · have kept := left_of_gentle (first named)
      rw [kept context subject, ← kept (context.disabling name) subject] at accountedLater
      rw [disabling_of_named named]
      exact .cons (stand_disabling_self filled own subject named) accountedLater
    · have same := stand_disabling_other own subject named
      rw [left, ← same] at accountedLater
      rw [disabling_of_other named]
      rw [← same] at ran
      exact .cons ran accountedLater

theorem ofStanding_skipped_disabling (name : String) (accounts : List Account) :
    ofStanding (accounts.map (·.disabling name)) .skipped
      = (accounts.filter fun a => a.isOf name || a.standing = .skipped).map (·.disabling name) := by
  rw [ofStanding, List.filter_map]
  congr 1
  refine List.filter_congr fun a _ => ?_
  cases isOf : a.isOf name <;> simp [Account.disabling, isOf]

theorem ofStanding_disabling (name : String) (accounts : List Account) {s : Standing}
    (ran : s ≠ .skipped) :
    ofStanding (accounts.map (·.disabling name)) s
      = (ofStanding accounts s).filter fun a => !a.isOf name := by
  induction accounts with
  | nil => rfl
  | cons a rest ih =>
    unfold ofStanding at ih ⊢
    cases isOf : a.isOf name with
    | true =>
      have skipped : (a.disabling name).standing = .skipped := by simp [Account.disabling, isOf]
      by_cases stands : a.standing = s <;> simp [skipped, stands, isOf, ran.symm, ih]
    | false =>
      have kept : a.disabling name = a := by simp [Account.disabling, isOf]
      by_cases stands : a.standing = s <;> simp [kept, stands, isOf, ih]

theorem entriesFor_disabling (name : String) (accounts : List Account) (c : Collection) :
    entriesFor c (accounts.map (·.disabling name))
      = entriesFor c (accounts.filter fun a => !a.isOf name) := by
  induction accounts with
  | nil => rfl
  | cons a rest ih =>
    unfold entriesFor at ih ⊢
    cases isOf : a.isOf name with
    | true =>
      have nothing : c.among (a.disabling name).filed = [] := by
        simp [Account.disabling, isOf, Collection.among]
      simp [nothing, isOf, ih]
    | false =>
      have kept : a.disabling name = a := by simp [Account.disabling, isOf]
      simp [kept, isOf, ih]

/-- With a name disabled, an engine that returned returns again: the rules of that name are skipped,
    the others come to what they came to before and file what they filed before, in the same order,
    and a record that passed still passes. -/
theorem disabling_is_local (filled : name ≠ "") (own : context.registry.Own)
    (gentle : ∀ i ∈ engine.rules, i.rule.name = .text name → i.rule.Gentle) {outcome : Outcome}
    (returned : (engine.validate context record).outcome = .ok outcome) :
    ∃ accounts later, Accounted context record.subject engine.rules accounts ∧
      (∀ s, Names (ofStanding accounts s) (outcome.rulesOf s)) ∧
      (engine.validate (context.disabling name) record).outcome = .ok later ∧
      Names (accounts.filter fun a => a.isOf name || a.standing = .skipped) later.skippedRules ∧
      (∀ s, s ≠ .skipped →
        Names ((ofStanding accounts s).filter fun a => !a.isOf name) (later.rulesOf s)) ∧
      (∀ c, (engine.validate context record).record.entries c
          = record.entries c ++ entriesFor c accounts ∧
        (engine.validate (context.disabling name) record).record.entries c
          = record.entries c ++ entriesFor c (accounts.filter fun a => !a.isOf name)) ∧
      (outcome.passed = true → later.passed = true) := by
  obtain ⟨accounts, accounted⟩ := accounted_of_validate returned
  have tells := (validate_ok_iff_tells accounted).mp returned
  have accountedLater := accounted_disabling filled own gentle accounted
  obtain ⟨later, tellsLater⟩ := exists_tells_map tells (installed_disabling name)
  have returnedLater := (validate_ok_iff_tells accountedLater).mpr tellsLater
  refine ⟨accounts, later, accounted, tells.lists, returnedLater, ?_, ?_, ?_, ?_⟩
  · have lists := tellsLater.lists .skipped
    rw [ofStanding_skipped_disabling, Names, List.forall₂_map_left_iff] at lists
    exact lists.imp fun a text told => installed_disabling name a ▸ told
  · intro s ran
    have lists := tellsLater.lists s
    rwa [ofStanding_disabling name accounts ran] at lists
  · intro c
    refine ⟨entries_validate accounted c, ?_⟩
    rw [entries_validate accountedLater, entriesFor_disabling]
  · intro passed
    have none := List.isEmpty_iff.mp (tells.passed.symm.trans passed)
    rw [tellsLater.passed, ofStanding_disabling name accounts (by decide), none]
    rfl

theorem startRequired_disabled :
    let context : Context := ⟨.empty, ⟨⟨2024, 5, 1, by decide⟩, 0, none, by decide⟩⟩
    let record : Record := ⟨⟨"A-1", none, none, [], none⟩, [], [], .pending⟩
    ∃ later, (startRequired.validate (context.disabling "start") record).outcome = .ok later ∧
      (startRequired.validate (context.disabling "start") record).record.errors = [] := by
  intro context record
  obtain ⟨outcome, returned⟩ := startRequired_returns
  have gentle : ∀ i ∈ startRequired.rules, i.rule.name = .text "start" → i.rule.Gentle := by
    intro i member _
    obtain rfl := List.mem_singleton.mp member
    exact Rule.gentle_of_no_conditions (by cbv)
  obtain ⟨accounts, later, accounted, _, returnedLater, _, _, entries, _⟩ :=
    disabling_is_local (by decide : "start" ≠ "") Registry.own_empty gentle returned
  have left : (accounts.filter fun a => !a.isOf "start") = [] := by
    rw [List.filter_eq_nil_iff]
    intro a member
    have installed : a.installed ∈ startRequired.rules :=
      accounted.rules_eq ▸ List.mem_map_of_mem member
    have named : a.installed.rule.name = .text "start" := by
      rw [List.mem_singleton.mp installed]
      simp [Rule.name, Entries.option, Entries.get?_cons_text]
    simp [Account.isOf, named, Value.same_text_self]
  refine ⟨later, returnedLater, ?_⟩
  have errors := (entries .errors).2
  rw [left] at errors
  exact errors

/-- An engine whose first rule takes the last of the tags before the second one looks at them. -/
def lastTagTaken : Engine where
  rules :=
    [{ name := .text "start", severity := .error, kind := .mustBe,
       rule := { field := .text "start",
                 options := [(.text "present", .bool true),
                   (.text "when", .dict [(.text "tags", .method (.text "pop"))]),
                   (.text "rule_name", .text "start")] } },
     { name := .text "tags", severity := .error, kind := .mustBe,
       rule := { field := .text "tags",
                 options := [(.text "equal_to", .list [.text "a", .text "b"]),
                   (.text "rule_name", .text "tags")] } }]

/-- Disabling a rule lets another one pass that saw what it changed, and skips another one that
    shares its settings. -/
theorem disabling_reaches_others :
    let clock : Moment := ⟨⟨2024, 5, 1, by decide⟩, 0, none, by decide⟩
    let tagged : Record :=
      ⟨⟨"A-1", none, none, [("tags", .list [.text "a", .text "b"])], none⟩, [], [], .pending⟩
    let context : Context := ⟨.empty, clock⟩
    let sharing : Context := ⟨⟨[(.text "start", 0), (.text "end", 0)], [{}], []⟩, clock⟩
    (∃ outcome later, (lastTagTaken.validate context tagged).outcome = .ok outcome ∧
      (lastTagTaken.validate (context.disabling "start") tagged).outcome = .ok later ∧
      outcome.failedRules = ["start", "tags"] ∧ later.passedRules = ["tags"]) ∧
    ∃ outcome later, (startRequired.validate sharing tagged).outcome = .ok outcome ∧
      (startRequired.validate (sharing.disabling "end") tagged).outcome = .ok later ∧
      outcome.failedRules = ["start"] ∧ later.skippedRules = ["start"] := by
  intro clock tagged context sharing
  have second : (lastTagTaken.validate (context.disabling "start") tagged).outcome
      = .ok ⟨"A-1", true, ["tags"], [], [], ["start"], []⟩ := by cbv
  have third : (startRequired.validate sharing tagged).outcome
      = .ok ⟨"A-1", false, [], ["start"], [], [], ["Start must be present."]⟩ := by cbv
  have fourth : (startRequired.validate (sharing.disabling "end") tagged).outcome
      = .ok ⟨"A-1", true, [], [], [], ["start"], []⟩ := by cbv
  have first : (lastTagTaken.validate context tagged).outcome
      = .ok ⟨"A-1", false, [], ["start", "tags"], [], [],
        ["Start must be present when tags = ['a'].", "Tags must be equal to ['a', 'b']."]⟩ := by cbv
  exact ⟨⟨_, _, first, second, rfl, rfl⟩, _, _, third, fourth, rfl, rfl⟩

end Engine

end RecordRules
