import Mathlib
import RecordRules.Proofs.Engine.Agreement
import RecordRules.Proofs.Engine.Concatenation
import RecordRules.Proofs.Engine.Disabling
import RecordRules.Proofs.Rule.Placing

/-!
# Notice rules

A rule that is made a notice rule still runs as before: it fails when it failed, with the same
entries. But its failure is a warning now, and its entries are among the warnings
(`stand_noticing_self`). All other rules are left as they were. So the outcome and the record change
by the failures of that name, and by nothing else (`noticing_only_reroutes`).
-/

namespace RecordRules

/-- A context with one more notice rule. -/
def Context.noticing (context : Context) (name : String) : Context :=
  { context with registry := context.registry.addNotices [.text name] }

/-- A rule whose entries go where its severity and the registry call for. -/
def Installed.Usual (i : Installed) : Prop :=
  ∀ (registry : Registry) (subject : Subject),
    i.rule.destination registry subject = .ok (.collection
      (if i.severity = .warning || registry.isNotice i.rule.name then .warnings else .errors))

theorem Installed.usual_of_build {declarations : List Entries} {engine : Engine}
    (built : Engine.build (.list (declarations.map .dict)) = .ok engine)
    (unplaced : ∀ entries ∈ declarations, Installed.enabled entries = true →
      Installed.Unplaced entries) :
    ∀ i ∈ engine.rules, i.Usual := by
  intro i member registry subject
  obtain ⟨entries, there, declares⟩ := exists_of_mem_left (declares_of_build built).flip i member
  obtain ⟨declared, on⟩ := List.mem_filter.mp there
  exact destination_of_unplaced declares (unplaced entries declared on) registry subject

namespace Engine

/-- Whether an account is of a failure of a rule of a name. -/
def Account.isFailureOf (name : String) (a : Account) : Bool := a.isOf name && a.standing = .failed

/-- The account of a rule after its name may have become that of a notice rule. -/
def Account.noticing (name : String) (a : Account) : Account :=
  if a.isFailureOf name then
    { a with standing := .warned, filed := Collection.warnings.holding a.filed }
  else a

/-! ## One rule -/

variable {context : Context} {subject : Subject} {i : Installed} {name : String}
  {filed : List (Collection × Entry)} {standing : Standing}

theorem moved_noticing (filled : name ≠ "") (usual : i.Usual) (named : i.rule.name = .text name)
    (context : Context) (subject : Subject) :
    ∃ c, i.rule.Moved subject context (context.noticing name) c .warnings := by
  have notice : (context.noticing name).registry.isNotice i.rule.name = true := by
    rw [named]
    exact Registry.isNotice_addNotices_self context.registry filled
  have target : i.rule.destination (context.noticing name).registry subject
      = .ok (.collection .warnings) := by
    rw [usual, notice, Bool.or_true]
    rfl
  exact ⟨_, rfl, rfl, usual context.registry subject, target⟩

/-- A failure of a notice rule is a warning, with the entries that it had as an error. -/
theorem stand_noticing_self (filled : name ≠ "") (usual : i.Usual)
    (named : i.rule.name = .text name)
    (ran : (stand context subject i).Yields filed standing) :
    (stand (context.noticing name) subject i).Yields
      (if standing = .failed then Collection.warnings.holding filed else filed)
      (if standing = .failed then .warned else standing) := by
  obtain ⟨_, moved⟩ := moved_noticing filled usual named context subject
  have again : ∀ {verdict : Bool}, (i.kind.runOn context i.rule subject).Yields filed verdict →
      (i.kind.runOn (context.noticing name) i.rule subject).Yields
        (Collection.warnings.holding filed) verdict := by
    intro verdict yields
    rw [RuleKind.runOn_placing moved.rerouted]
    exact Run.yields_placing yields .warnings
  have mild : (i.severity = .warning || (context.noticing name).registry.isNotice i.rule.name)
      = true := by
    rw [named]
    exact Bool.or_eq_true_iff.mpr
      (.inr (Registry.isNotice_addNotices_self context.registry filled))
  have on := enabled_of_yields ran
  have stood := stood_of_yields ran
  obtain ⟨silent, placed⟩ :=
    placed_of_stood (a := ⟨i, subject, standing, filed⟩) (usual context.registry subject) stood
  cases stood with
  | skipped off => exact yields_of_stood (.skipped off) (by simp)
  | passed yields =>
    obtain rfl : filed = [] := silent (.inl rfl)
    exact yields_of_stood (.passed (again yields)) fun _ => on (by decide)
  | warned yields _ =>
    have kept : Collection.warnings.holding filed = filed := Collection.holding_of_placed placed
    exact yields_of_stood (.warned (kept ▸ again yields) mild) fun _ => on (by decide)
  | failed yields _ => exact yields_of_stood (.warned (again yields) mild) fun _ => on (by decide)

theorem left_noticing_self (filled : name ≠ "") (usual : i.Usual)
    (named : i.rule.name = .text name) (subject : Subject) :
    left (context.noticing name) subject i = left context subject i := by
  obtain ⟨_, moved⟩ := moved_noticing filled usual named context subject
  refine left_congr rfl ?_
  rw [RuleKind.runOn_placing moved.rerouted]
  rfl

theorem stand_noticing_other (context : Context) (subject : Subject)
    (other : i.rule.name ≠ .text name) :
    stand (context.noticing name) subject i = stand context subject i := by
  have notice := Registry.isNotice_addNotices_other context.registry name other
  have agree : RuleKind.Agree i.rule (context.noticing name) context := ⟨rfl, rfl, notice⟩
  simp only [stand, RuleKind.runOn_congr agree, agree.disabled, agree.notice]

/-! ## All rules -/

variable {engine : Engine} {record : Record} {rules : List Installed} {accounts : List Account}

theorem installed_noticing (name : String) (a : Account) :
    (a.noticing name).installed = a.installed := by
  unfold Account.noticing
  split <;> rfl

theorem noticing_of_named (named : i.rule.name = .text name) (found : Subject)
    (standing : Standing) (filed : List (Collection × Entry)) :
    Account.noticing name ⟨i, found, standing, filed⟩
      = ⟨i, found, if standing = .failed then .warned else standing,
        if standing = .failed then Collection.warnings.holding filed else filed⟩ := by
  have isOf (standing : Standing) (filed : List (Collection × Entry)) :
      Account.isOf name ⟨i, found, standing, filed⟩ = true := by
    rw [Account.isOf, named, Value.same_text_self]
  by_cases failed : standing = .failed <;>
    simp [Account.noticing, Account.isFailureOf, isOf, failed]

theorem noticing_of_other (other : i.rule.name ≠ .text name) (found : Subject)
    (standing : Standing) (filed : List (Collection × Entry)) :
    Account.noticing name ⟨i, found, standing, filed⟩ = ⟨i, found, standing, filed⟩ := by
  refine if_neg fun isFailure => other ?_
  obtain ⟨isOf, _⟩ := Bool.and_eq_true_iff.mp isFailure
  exact ((Value.same_text_iff name i.rule.name).mp isOf).symm

/-- Every rule leaves what it left, so that each finds what it found. -/
theorem accounted_noticing (filled : name ≠ "") (usual : ∀ i ∈ rules, i.Usual)
    (accounted : Accounted context subject rules accounts) :
    Accounted (context.noticing name) subject rules (accounts.map (·.noticing name)) := by
  induction accounted with
  | nil => exact .nil
  | @cons subject i standing filed rest accounts ran later ih =>
    obtain ⟨first, others⟩ := List.forall_mem_cons.mp usual
    have accountedLater := ih others
    rw [List.map_cons]
    by_cases named : i.rule.name = .text name
    · rw [← left_noticing_self filled first named subject] at accountedLater
      rw [noticing_of_named named]
      exact .cons (stand_noticing_self filled first named ran) accountedLater
    · have same := stand_noticing_other context subject named
      rw [left, ← same] at accountedLater
      rw [noticing_of_other named]
      rw [← same] at ran
      exact .cons ran accountedLater

/-- Whether an account comes to have a standing: a failure of the name comes to be a warning, and
    all others stay what they were. -/
def Account.comesToStand (name : String) (s : Standing) (a : Account) : Bool :=
  if a.isFailureOf name then decide (Standing.warned = s) else decide (a.standing = s)

theorem ofStanding_noticing (name : String) (accounts : List Account) (s : Standing) :
    ofStanding (accounts.map (·.noticing name)) s
      = (accounts.filter (·.comesToStand name s)).map (·.noticing name) := by
  rw [ofStanding, List.filter_map]
  congr 1
  refine List.filter_congr fun a _ => ?_
  cases failure : a.isFailureOf name <;> simp [Account.noticing, Account.comesToStand, failure]

/-- Who passed and who was skipped is not changed. -/
theorem comesToStand_of_quiet (name : String) (accounts : List Account) {s : Standing}
    (quiet : s = .passed ∨ s = .skipped) :
    accounts.filter (·.comesToStand name s) = ofStanding accounts s := by
  refine List.filter_congr fun a _ => ?_
  unfold Account.comesToStand Account.isFailureOf
  cases a.isOf name <;> rcases quiet with rfl | rfl <;> cases a.standing <;> rfl

theorem comesToStand_failed_iff (name : String) (a : Account) :
    a.comesToStand name .failed = true ↔ a.standing = .failed ∧ a.isOf name = false := by
  unfold Account.comesToStand Account.isFailureOf
  cases a.isOf name <;> cases a.standing <;> simp

theorem names_noticing_iff (name : String) (accounts : List Account) (names : List String) :
    Names (accounts.map (·.noticing name)) names ↔ Names accounts names := by
  simp only [Names, List.forall₂_map_left_iff, installed_noticing]

theorem entries_noticing (name : String) (accounts : List Account) :
    (accounts.map (·.noticing name)).flatMap Account.entries
      = accounts.flatMap Account.entries := by
  rw [List.flatMap_map]
  refine List.flatMap_congr fun a _ => ?_
  unfold Account.noticing Account.entries Collection.holding
  split
  · simp
  · rfl

theorem placed_of_accounted (usual : ∀ i ∈ rules, i.Usual)
    (accounted : Accounted context subject rules accounts) : ∀ a ∈ accounts, a.Placed := by
  intro a member
  have isUsual := usual a.installed (accounted.rules_eq ▸ List.mem_map_of_mem member)
  exact placed_of_stood (isUsual context.registry a.found) (stood_of_yields (accounted.ran a member))

/-- With a name added to the notice rules, an engine that returned returns again. Each rule of that
    name that failed is a warning instead, in its place, and its entries are among the warnings
    instead of the errors, in the order of the rules; all other rules and entries stay where they
    were. The verdict, the status and the messages are those of the failures that are left. -/
theorem noticing_only_reroutes {declarations : List Entries}
    (built : build (.list (declarations.map .dict)) = .ok engine)
    (unplaced : ∀ entries ∈ declarations, Installed.enabled entries = true →
      Installed.Unplaced entries)
    (filled : name ≠ "") {outcome : Outcome}
    (returned : (engine.validate context record).outcome = .ok outcome) :
    ∃ accounts later, Accounted context record.subject engine.rules accounts ∧
      (engine.validate (context.noticing name) record).outcome = .ok later ∧
      (∀ s, Names (ofStanding accounts s) (outcome.rulesOf s) ∧
        Names (accounts.filter (·.comesToStand name s)) (later.rulesOf s)) ∧
      later.passedRules = outcome.passedRules ∧ later.skippedRules = outcome.skippedRules ∧
      (∀ c, (engine.validate context record).record.entries c
          = record.entries c ++ (ofStanding accounts (standingOf c)).flatMap Account.entries ∧
        (engine.validate (context.noticing name) record).record.entries c
          = record.entries c
            ++ (accounts.filter (·.comesToStand name (standingOf c))).flatMap Account.entries) ∧
      (later.passed = true ↔ ∀ a ∈ accounts, a.standing = .failed → a.isOf name = true) ∧
      (engine.validate (context.noticing name) record).record.status
        = (if later.passed then .valid else .invalid) ∧
      later.messages
        = fullMessages (engine.validate (context.noticing name) record).record.errors := by
  have usual := Installed.usual_of_build built unplaced
  obtain ⟨accounts, accounted⟩ := accounted_of_validate returned
  have tells := (validate_ok_iff_tells accounted).mp returned
  have accountedLater := accounted_noticing filled usual accounted
  obtain ⟨later, tellsLater⟩ := exists_tells_map tells (installed_noticing name)
  have returnedLater := (validate_ok_iff_tells accountedLater).mpr tellsLater
  have lists : ∀ s, Names (accounts.filter (·.comesToStand name s)) (later.rulesOf s) := by
    intro s
    have listed := tellsLater.lists s
    rwa [ofStanding_noticing, names_noticing_iff] at listed
  have quiet : ∀ s, s = .passed ∨ s = .skipped → later.rulesOf s = outcome.rulesOf s := by
    intro s isQuiet
    have listed := lists s
    rw [comesToStand_of_quiet name accounts isQuiet] at listed
    exact names_unique listed (tells.lists s)
  have placed := placed_of_accounted usual accounted
  have placedLater := placed_of_accounted usual accountedLater
  refine ⟨accounts, later, accounted, returnedLater, fun s => ⟨tells.lists s, lists s⟩,
    quiet .passed (.inl rfl), quiet .skipped (.inr rfl), ?_, ?_, ?_, ?_⟩
  · intro c
    rw [entries_validate accounted, entries_validate accountedLater, entriesFor_of_placed placed,
      entriesFor_of_placed placedLater, ofStanding_noticing, entries_noticing]
    exact ⟨rfl, rfl⟩
  · rw [tellsLater.passed, ofStanding_noticing, List.isEmpty_map, List.isEmpty_iff,
      List.filter_eq_nil_iff]
    simp only [comesToStand_failed_iff, not_and, Bool.not_eq_false]
  · rw [status_validate accountedLater, tellsLater.passed]
  · have errors := entries_validate accountedLater .errors
    exact tellsLater.messages.trans (congrArg fullMessages errors.symm)

/-- With starts made a matter of notice, a record without one is valid. -/
theorem startRequired_noticed :
    let context : Context := ⟨.empty, ⟨⟨2024, 5, 1, by decide⟩, 0, none, by decide⟩⟩
    let record : Record := ⟨⟨"A-1", none, none, [], none⟩, [], [], .pending⟩
    build (.list ([startDeclared].map .dict)) = .ok startRequired ∧
      ∃ outcome later, (startRequired.validate context record).outcome = .ok outcome ∧
        outcome.failedRules = ["start"] ∧
        (startRequired.validate (context.noticing "start") record).outcome = .ok later ∧
        later.passed = true ∧
        (startRequired.validate (context.noticing "start") record).record.status = .valid ∧
        (startRequired.validate (context.noticing "start") record).record.errors = [] := by
  intro context record
  have built : build (.list ([startDeclared].map .dict)) = .ok startRequired := by cbv
  have unplaced : ∀ entries ∈ [startDeclared], Installed.enabled entries = true →
      Installed.Unplaced entries := by
    intro entries member _ declared isDeclared
    obtain rfl := List.mem_singleton.mp member
    simp only [Installed.parameters, startDeclared, Entries.option, Entries.get?_cons_text,
      String.reduceEq, reduceIte] at isDeclared
    obtain rfl := Except.ok.inj isDeclared
    simp [Entries.has, Entries.get?_cons_text, Entries.get?_nil]
  have returned : (startRequired.validate context record).outcome
      = .ok ⟨"A-1", false, [], ["start"], [], [], ["Start must be present."]⟩ := by cbv
  obtain ⟨accounts, later, accounted, returnedLater, _, _, _, entries, passed, status, _⟩ :=
    noticing_only_reroutes built unplaced (by decide : "start" ≠ "") returned
  have named : ∀ a ∈ accounts, a.isOf "start" = true := by
    intro a member
    have installed : a.installed ∈ startRequired.rules :=
      accounted.rules_eq ▸ List.mem_map_of_mem member
    rw [Account.isOf, List.mem_singleton.mp installed]
    cbv
  have none : accounts.filter (·.comesToStand "start" .failed) = [] := by
    rw [List.filter_eq_nil_iff]
    intro a member failure
    have apart := ((comesToStand_failed_iff "start" a).mp failure).2
    exact Bool.noConfusion (apart.symm.trans (named a member))
  have passes : later.passed = true := passed.mpr fun a member _ => named a member
  have errors := (entries .errors).2
  rw [standingOf, none] at errors
  exact ⟨built, _, later, returned, rfl, returnedLater, passes, status.trans (if_pos passes), errors⟩

end Engine

end RecordRules
