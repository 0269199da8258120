import RecordRules.Engine.Basic
import RecordRules.Proofs.Evaluation
import RecordRules.Proofs.Value.Lookup

/-!
# Built engines

An engine that is built holds one rule for each declaration that is enabled, in the order of the
declarations (`declares_of_build`). A declaration whose parameters do not say otherwise gives a rule
that goes by its declared name and files into the collection that its severity and the registry call
for (`destination_of_unplaced`).
-/

namespace RecordRules

/-! ## Words for kinds and severities -/

/-- A choice between two words depends on whether a value is one of them. -/
theorem Value.ofTwoWords_iff {α : Type} {v : Value} {word other : String} {a b chosen : α} :
    (if same v (.text word) then some a else if same v (.text other) then some b else none)
        = some chosen ↔
      v = .text word ∧ a = chosen ∨ v ≠ .text word ∧ v = .text other ∧ b = chosen := by
  have isWord := same_right_text_iff v word
  have isOther := same_right_text_iff v other
  by_cases first : v = .text word
  · rw [if_pos (isWord.mpr first)]
    simp [first]
  · rw [if_neg fun same => first (isWord.mp same)]
    by_cases second : v = .text other
    · have apart : other ≠ word := fun same => first (second.trans (congrArg text same))
      rw [if_pos (isOther.mpr second)]
      simp [second, apart]
    · rw [if_neg fun same => second (isOther.mp same)]
      simp [first, second]

theorem RuleKind.ofValue?_iff {v : Value} {kind : RuleKind} :
    RuleKind.ofValue? v = some kind ↔ v = .text kind.text := by
  rw [RuleKind.ofValue?, Value.ofTwoWords_iff]
  cases kind <;> simp [RuleKind.text]
  rintro rfl
  simp

theorem Severity.ofValue?_iff {v : Value} {severity : Severity} :
    Severity.ofValue? v = some severity ↔ v = .text severity.text := by
  rw [Severity.ofValue?, Value.ofTwoWords_iff]
  cases severity <;> simp [Severity.text]
  rintro rfl
  simp

/-! ## Declarations and the rules they ask for -/

namespace Engine

/-- An engine is built just when each declaration gives a rule or is left out. -/
theorem build_ok_iff {declarations : List Value} {engine : Engine} :
    build (.list declarations) = .ok engine ↔
      ∃ found, List.Forall₂ (fun d i => Installed.ofDeclaration d = .ok i) declarations found ∧
        engine.rules = found.filterMap id := by
  unfold build
  simp only [Value.iterate, ok_bind_iff, ok_pure_iff, ok_mapM_iff, Except.ok.injEq]
  constructor
  · rintro ⟨_, rfl, found, each, rfl⟩
    exact ⟨found, each, rfl⟩
  · rintro ⟨found, each, rules⟩
    exact ⟨_, rfl, found, each, congrArg Engine.mk rules.symm⟩

end Engine

namespace Installed

/-- Whether a declaration is enabled; it is unless it says otherwise. -/
def enabled (entries : Entries) : Bool :=
  ((entries.get? (.text "enabled")).getD (.bool true)).truthy

/-- The parameters that a declaration gives. -/
def parameters (entries : Entries) : Except Fault Entries :=
  ((entries.option "parameters").orElse (.dict [])).asEntries

/-- A rule that a declaration asks for. -/
structure Declares (entries : Entries) (i : Installed) : Prop where
  name : entries.get? (.text "rule_name") = some i.name
  kind : ∃ word, entries.get? (.text "rule_type") = some word ∧ RuleKind.ofValue? word = some i.kind
  severity : Severity.ofValue? ((entries.get? (.text "severity")).getD (.text "error"))
    = some i.severity
  field : entries.get? (.text "field_name") = some i.rule.field
  options : ∃ declared, parameters entries = .ok declared ∧
    i.rule.options = Installed.options declared i.name i.severity

theorem demand_ok_iff {entries : Entries} {name : String} {v : Value} :
    entries.demand name = .ok v ↔ entries.get? (.text name) = some v := by
  unfold Entries.demand
  cases entries.get? (.text name) <;> simp

theorem ofEntries_cases {entries : Entries} {found : Option Installed}
    (came : ofEntries entries = .ok found) :
    (enabled entries = false ∧ found = none) ∨
      enabled entries = true ∧ ∃ i, found = some i ∧ Declares entries i := by
  unfold ofEntries at came
  split at came
  next off =>
    exact .inl ⟨(Bool.not_eq_true' _).mp off, (ok_pure_iff.mp came).symm⟩
  next on =>
    have isOn : enabled entries = true := by simpa [enabled] using on
    obtain ⟨name, nameIs, afterName⟩ := ok_bind_iff.mp came
    obtain ⟨word, wordIs, afterWord⟩ := ok_bind_iff.mp afterName
    obtain ⟨key, keyIs, afterKey⟩ := ok_bind_iff.mp afterWord
    obtain rfl := Value.asKey_ok keyIs
    dsimp only at afterKey
    split at afterKey
    next kind kindIs =>
      obtain ⟨_, same, afterKind⟩ := ok_bind_iff.mp afterKey
      obtain rfl := ok_pure_iff.mp same
      split at afterKind
      next severity severityIs =>
        obtain ⟨_, same', afterSeverity⟩ := ok_bind_iff.mp afterKind
        obtain rfl := ok_pure_iff.mp same'
        obtain ⟨declared, declaredIs, afterDeclared⟩ := ok_bind_iff.mp afterSeverity
        obtain ⟨field, fieldIs, made⟩ := ok_bind_iff.mp afterDeclared
        obtain rfl := ok_pure_iff.mp made
        exact .inr ⟨isOn, _, rfl, demand_ok_iff.mp nameIs, ⟨key, demand_ok_iff.mp wordIs, kindIs⟩,
          severityIs, demand_ok_iff.mp fieldIs, declared, declaredIs, rfl⟩
      · -- A severity of no known name is a fault, like a kind below.
        obtain ⟨_, _, afterShown⟩ := ok_bind_iff.mp afterKind
        obtain ⟨_, _, thrown⟩ := ok_bind_iff.mp afterShown
        cases thrown
    · obtain ⟨_, _, thrown⟩ := ok_bind_iff.mp afterKey
      cases thrown

theorem ofEntries_of_disabled {entries : Entries} (off : enabled entries = false) :
    ofEntries entries = .ok none := by
  unfold ofEntries
  exact if_pos (by rw [← enabled, off]; rfl)

/-- A declaration asks for a rule if it is enabled and gives what the rule is made of. -/
theorem ofEntries_of_declares {entries : Entries} {i : Installed} (on : enabled entries = true)
    (declares : Declares entries i) : ofEntries entries = .ok (some i) := by
  obtain ⟨word, isWord, isKind⟩ := declares.kind
  obtain ⟨declared, isDeclared, optionsAre⟩ := declares.options
  have isEnabled : (!((entries.get? (.text "enabled")).getD (.bool true)).truthy) = false := by
    rw [← enabled, on]
    rfl
  have isKey : word.asKey = .ok word := by
    rw [RuleKind.ofValue?_iff.mp isKind]
    exact Value.asKey_text _
  unfold parameters at isDeclared
  unfold ofEntries
  rw [isEnabled, demand_ok_iff.mpr declares.name, demand_ok_iff.mpr isWord,
    demand_ok_iff.mpr declares.field, isDeclared]
  simp only [Bind.bind, Except.bind, isKey, isKind, declares.severity]
  obtain ⟨name, severity, kind, field, given⟩ := i
  obtain rfl : given = options declared name severity := optionsAre
  rfl

/-- An engine that is built holds a rule for each declaration that is enabled, in order. -/
theorem declares_of_build {declarations : List Entries} {engine : Engine}
    (built : Engine.build (.list (declarations.map .dict)) = .ok engine) :
    List.Forall₂ Declares (declarations.filter enabled) engine.rules := by
  obtain ⟨installed, each, rules⟩ := Engine.build_ok_iff.mp built
  rw [List.forall₂_map_left_iff] at each
  rw [rules]
  clear built rules
  induction each with
  | nil => exact .nil
  | @cons entries found declarations installed first others ih =>
    rcases ofEntries_cases first with ⟨off, rfl⟩ | ⟨on, i, rfl, declares⟩
    · simpa [off] using ih
    · simpa [on] using ⟨declares, ih⟩

/-! ## Rules without a place of their own -/

theorem get?_of_has {entries : Entries} {key : Value} (notThere : entries.has key = false) :
    entries.get? key = none := by
  unfold Entries.has at notThere
  cases found : entries.get? key with
  | none => rfl
  | some v => simp [found] at notThere

theorem get?_options_name {declared : Entries} (name : Value) (severity : Severity)
    (noName : declared.has (.text "rule_name") = false) :
    (options declared name severity).get? (.text "rule_name") = some name := by
  have named : (declared.putDefault (.text "rule_name") name).get? (.text "rule_name")
      = some name := by
    rw [Entries.get?_putDefault_self, get?_of_has noName]
    rfl
  cases severity with
  | error => exact named
  | warning => exact (Entries.get?_putDefault_other _ _ _ (by decide)).trans named

theorem get?_options_level {declared : Entries} (name : Value) (severity : Severity)
    (noLevel : declared.has (.text "error_level") = false) :
    (options declared name severity).get? (.text "error_level")
      = if severity = .warning then some (.text "warnings") else none := by
  have unplaced : (declared.putDefault (.text "rule_name") name).get? (.text "error_level")
      = none :=
    (Entries.get?_putDefault_other _ _ _ (by decide)).trans (get?_of_has noLevel)
  cases severity with
  | error => exact unplaced
  | warning =>
    show (Entries.putDefault _ (.text "error_level") _).get? (.text "error_level") = _
    rw [Entries.get?_putDefault_self, unplaced]
    rfl

/-- A declaration that leaves the place of the entries of its rule to the engine. -/
def Unplaced (entries : Entries) : Prop :=
  ∀ declared, parameters entries = .ok declared → declared.has (.text "error_level") = false

/-- The rules of such declarations file warnings where a failure counts as one, and else errors. -/
theorem destination_of_unplaced {entries : Entries} {i : Installed} (declares : Declares entries i)
    (unplaced : Unplaced entries) (registry : Registry) (subject : Subject) :
    i.rule.destination registry subject = .ok (.collection
      (if i.severity = .warning || registry.isNotice i.rule.name then .warnings else .errors)) := by
  obtain ⟨declared, isDeclared, optionsAre⟩ := declares.options
  have noLevel := unplaced declared isDeclared
  have level : i.rule.options.option "error_level"
      = if i.severity = .warning then .text "warnings" else .null := by
    rw [optionsAre, Entries.option, get?_options_level _ _ noLevel]
    cases i.severity <;> rfl
  rw [Rule.destination, Rule.level, level]
  cases i.severity with
  | error => cases registry.isNotice i.rule.name <;> rfl
  | warning => rfl

/-- A declaration that leaves the name of its rule and the place of its entries to the engine. -/
def Unnamed (entries : Entries) : Prop :=
  ∀ declared, parameters entries = .ok declared →
    declared.has (.text "rule_name") = false ∧ declared.has (.text "error_level") = false

theorem name_of_unnamed {entries : Entries} {i : Installed} (declares : Declares entries i)
    (unnamed : Unnamed entries) : i.rule.name = i.name := by
  obtain ⟨declared, isDeclared, optionsAre⟩ := declares.options
  obtain ⟨noName, _⟩ := unnamed declared isDeclared
  rw [Rule.name, optionsAre, Entries.option, get?_options_name _ _ noName]
  rfl

theorem destination_of_unnamed {entries : Entries} {i : Installed} (declares : Declares entries i)
    (unnamed : Unnamed entries) (registry : Registry) (subject : Subject) :
    i.rule.destination registry subject = .ok (.collection
      (if i.severity = .warning || registry.isNotice i.rule.name then .warnings else .errors)) :=
  destination_of_unplaced declares (fun declared isDeclared => (unnamed declared isDeclared).2)
    registry subject

end Installed

end RecordRules
