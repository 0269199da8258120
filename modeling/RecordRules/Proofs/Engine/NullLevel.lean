import Mathlib
import RecordRules.Proofs.Engine.Concatenation
import RecordRules.Proofs.Engine.MovedEntries
import RecordRules.Proofs.Rule.Directives

/-!
# Nothing as the collection for failures

Where a declaration does not name a collection for the failures of its rule, the engine names one
for warnings. It does not where the declaration gives nothing as the collection, which leaves the
failures to the errors unless the rule is a notice rule. So a warning with nothing as its collection
stands as a warning in the outcome, with its entries among the errors of the record and among the
messages (`null_level_moves_warnings`). Every other rule does what it did.
-/

namespace RecordRules

/-! ## Declarations with nothing as the collection -/

namespace Installed

/-- That a declaration is another one with nothing as the collection for failures added to its
    parameters, which name none. -/
structure NullsLevel (entries other : Entries) : Prop where
  others : ∀ name, name ≠ "parameters" → other.get? (.text name) = entries.get? (.text name)
  parameters : ∃ first last, parameters entries = .ok (first ++ last) ∧
    (first ++ last).has (.text "error_level") = false ∧
    parameters other = .ok (first ++ (.text "error_level", .null) :: last)

theorem NullsLevel.unplaced {entries other : Entries} (nulled : NullsLevel entries other) :
    Unplaced entries := by
  intro declared isDeclared
  obtain ⟨first, last, isDeclaredToo, absent, _⟩ := nulled.parameters
  obtain rfl := Except.ok.inj (isDeclared.symm.trans isDeclaredToo)
  exact absent

variable {first last declared others : Entries} {entries other : Entries}

/-! What the engine adds to the options is nothing that a rule asks for. -/

theorem exists_options_eq_append (declared : Entries) (name : Value) (severity : Severity) :
    ∃ added, options declared name severity = declared ++ added ∧ MustBe.DirectivesIn added [] := by
  have default {key : String} (noDirective : MustBe.isDirective (.text key) = false) (v : Value)
      (entries : Entries) :
      ∃ added, entries.putDefault (.text key) v = entries ++ added ∧
        MustBe.DirectivesIn added [] := by
    rcases entries.putDefault_cases (.text key) v with same | put
    · exact ⟨[], by rw [same, List.append_nil], fun entry member => absurd member List.not_mem_nil⟩
    · refine ⟨_, put, fun entry member directive => ?_⟩
      rw [List.mem_singleton.mp member, noDirective] at directive
      cases directive
  obtain ⟨named, isNamed, noneNamed⟩ :=
    default (by decide : MustBe.isDirective (.text "rule_name") = false) name declared
  cases severity with
  | error => exact ⟨named, isNamed, noneNamed⟩
  | warning =>
    obtain ⟨placed, isPlaced, nonePlaced⟩ := default
      (by decide : MustBe.isDirective (.text "error_level") = false) (.text "warnings")
      (declared ++ named)
    refine ⟨named ++ placed, ?_, fun entry member => ?_⟩
    · rw [options, isNamed, isPlaced, List.append_assoc]
    · rcases List.mem_append.mp member with early | late
      · exact noneNamed entry early
      · exact nonePlaced entry late

theorem comparisons_options (declared : Entries) (name : Value) (severity : Severity) :
    MustBe.comparisons (options declared name severity) = MustBe.comparisons declared := by
  obtain ⟨added, isAdded, noDirective⟩ := exists_options_eq_append declared name severity
  have none : MustBe.comparisons added = [] := noDirective.comparisons_eq_nil fun _ => by simp
  rw [isAdded, MustBe.comparisons, List.filterMap_append]
  exact (congrArg _ none).trans (List.append_nil _)

theorem directed_options (declared : Entries) (name : Value) (severity : Severity) :
    ((options declared name severity).any fun (key, _) => MustBe.isDirective key)
      = declared.any fun (key, _) => MustBe.isDirective key := by
  obtain ⟨added, isAdded, noDirective⟩ := exists_options_eq_append declared name severity
  have none : (added.any fun (key, _) => MustBe.isDirective key) = false := by
    rw [List.any_eq_false]
    intro entry member directive
    obtain ⟨_, known, _⟩ := noDirective entry member directive
    cases known
  rw [isAdded, List.any_append, none, Bool.or_false]

theorem get?_options_congr (name : Value) (severity : Severity)
    (same : ∀ key, key ≠ "error_level" → others.get? (.text key) = declared.get? (.text key))
    (key : String) (apart : key ≠ "error_level") :
    (options others name severity).get? (.text key)
      = (options declared name severity).get? (.text key) := by
  have named : (others.putDefault (.text "rule_name") name).get? (.text key)
      = (declared.putDefault (.text "rule_name") name).get? (.text key) := by
    by_cases isName : key = "rule_name"
    · rw [isName, Entries.get?_putDefault_self, Entries.get?_putDefault_self,
        same "rule_name" (by decide)]
    · rw [Entries.get?_putDefault_other _ _ _ isName, Entries.get?_putDefault_other _ _ _ isName,
        same key apart]
  cases severity with
  | error => exact named
  | warning =>
    exact (Entries.get?_putDefault_other _ _ _ apart).trans
      (named.trans (Entries.get?_putDefault_other _ _ _ apart).symm)

/-- Nothing as the collection stays: it is there, so no default takes its place. -/
theorem get?_options_null (name : Value) (severity : Severity)
    (absent : (first ++ last).has (.text "error_level") = false) :
    (options (first ++ (.text "error_level", .null) :: last) name severity).get?
      (.text "error_level") = some .null := by
  have notFirst : first.get? (.text "error_level") = none := by
    have none := get?_of_has absent
    rw [Entries.get?_append] at none
    exact (Option.or_eq_none_iff.mp none).1
  have given : (first ++ (.text "error_level", .null) :: last).get? (.text "error_level")
      = some .null := by
    rw [Entries.get?_append, notFirst, Entries.get?_cons_text, if_pos rfl]
    rfl
  have named := (Entries.get?_putDefault_other
    (first ++ (.text "error_level", .null) :: last) "rule_name" name
    (by decide : "error_level" ≠ "rule_name")).trans given
  cases severity with
  | error => exact named
  | warning =>
    refine (Entries.get?_putDefault_self _ _ _).trans ?_
    rw [named]
    rfl

/-- A rule with other options. -/
def withOptions (i : Installed) (declared : Entries) : Installed :=
  { i with rule := { i.rule with options := options declared i.name i.severity } }

theorem declares_withOptions (nulled : NullsLevel entries other) {i : Installed}
    (declares : Declares entries i) (isGiven : parameters other = .ok others) :
    Declares other (i.withOptions others) := by
  refine ⟨?_, ?_, ?_, ?_, others, isGiven, rfl⟩
  · rw [nulled.others "rule_name" (by decide)]
    exact declares.name
  · rw [nulled.others "rule_type" (by decide)]
    exact declares.kind
  · rw [nulled.others "severity" (by decide)]
    exact declares.severity
  · rw [nulled.others "field_name" (by decide)]
    exact declares.field

/-- A rule with nothing as its collection is the rule that it was, but for the collection. -/
theorem sameButLevel_withOptions (i : Installed)
    (optionsAre : i.rule.options = options (first ++ last) i.name i.severity) :
    i.rule.SameButLevel (i.withOptions (first ++ (.text "error_level", .null) :: last)).rule := by
  refine ⟨rfl, fun key apart => ?_, ?_, ?_⟩
  · rw [optionsAre]
    refine get?_options_congr i.name i.severity (fun key apart => ?_) key apart
    rw [Entries.get?_append, Entries.get?_append, Entries.get?_cons_text, if_neg apart.symm]
  · rw [optionsAre]
    refine (comparisons_options ..).trans (Eq.trans ?_ (comparisons_options ..).symm)
    simp [MustBe.comparisons, Comparator.ofKey?, Comparator.all, Comparator.name]
  · rw [optionsAre]
    refine (directed_options ..).trans (Eq.trans ?_ (directed_options ..).symm)
    have noDirective : MustBe.isDirective (.text "error_level") = false := by decide
    simp [noDirective]

end Installed

namespace Engine

open Installed (NullsLevel Declares enabled ofEntries)

/-! ## Engines with one rule changed -/

/-- What a declaration asks for is in the engine between what those before and after it ask for. -/
theorem build_between {before after : List Entries} {entries : Entries} {engine : Engine}
    (built : build (.list ((before ++ entries :: after).map .dict)) = .ok engine) :
    ∃ first found last, ofEntries entries = .ok found ∧
      engine.rules = first ++ found.toList ++ last ∧
      ∀ other instead, ofEntries other = .ok instead →
        build (.list ((before ++ other :: after).map .dict))
          = .ok ⟨first ++ instead.toList ++ last⟩ := by
  obtain ⟨found, each, rules⟩ := build_ok_iff.mp built
  rw [List.map_append] at each
  have early := (List.forall₂_take_append _ _ _ each.flip).flip
  obtain ⟨own, rest, isOwn, late, split⟩ :=
    List.forall₂_cons_left_iff.mp (List.forall₂_drop_append _ _ _ each.flip).flip
  have between (own : Option Installed) :
      (found.take (before.map Value.dict).length ++ own :: rest).filterMap id
        = (found.take (before.map Value.dict).length).filterMap id ++ own.toList
          ++ rest.filterMap id := by
    cases own <;> simp
  refine ⟨(found.take (before.map Value.dict).length).filterMap id, own, rest.filterMap id, isOwn,
    ?_, fun other instead came => ?_⟩
  · rw [rules, ← between, ← split, List.take_append_drop]
  · rw [List.map_append]
    exact build_ok_iff.mpr ⟨_, List.rel_append early (.cons came late), (between instead).symm⟩

/-- Without a collection of its own, a rule has its failures among the errors, or as a notice rule
    among the warnings. -/
def usual (context : Context) (rule : Rule) : Collection :=
  if context.registry.isNotice rule.name then .warnings else .errors

theorem destination_of_null {rule : Rule} (null : rule.options.option "error_level" = .null)
    (context : Context) (subject : Subject) :
    rule.destination context.registry subject = .ok (.collection (usual context rule)) := by
  rw [Rule.destination, Rule.level, null, usual]
  cases context.registry.isNotice rule.name <;> rfl

/-- What nothing as the collection of a rule does to a run over a record: its entries are where they
    usually are. -/
theorem null_level_places {entries other : Entries} (nulled : NullsLevel entries other)
    {i : Installed} (declares : Declares entries i) :
    ∃ later, Declares other later ∧ later.name = i.name ∧
      ∀ (context : Context) (subject : Subject),
        stand context subject later = (stand context subject i).placing (usual context i.rule) := by
  obtain ⟨first, last, isDeclared, absent, isGiven⟩ := nulled.parameters
  obtain ⟨declared, isDeclaredToo, optionsAre⟩ := declares.options
  obtain rfl := Except.ok.inj (isDeclared.symm.trans isDeclaredToo)
  refine ⟨_, Installed.declares_withOptions nulled declares isGiven, rfl, fun context subject => ?_⟩
  have same := i.sameButLevel_withOptions optionsAre
  have null : (i.withOptions _).rule.options.option "error_level" = .null :=
    congrArg (·.getD .null) (Installed.get?_options_null i.name i.severity absent)
  have aimed := Installed.destination_of_unplaced declares nulled.unplaced context.registry subject
  refine stand_placing rfl rfl ⟨same, rfl, rfl, aimed, ?_⟩
  rw [destination_of_null null, usual, same.name, ← usual]

/-- Nothing as the collection for failures, given by a declaration that named none before. It makes
    no difference where the declaration is not enabled, nor for a rule of severity error, a notice
    rule or a rule that files nothing or is not reached. The failures of any other rule of severity
    warning, which were among the warnings of the record, are among its errors and messages. Each
    rule stands as it did, and the record has the same status. -/
theorem null_level_moves_warnings {before after : List Entries} {entries other : Entries}
    {engine : Engine} (nulled : NullsLevel entries other)
    (built : build (.list ((before ++ entries :: after).map .dict)) = .ok engine) :
    ∃ later, build (.list ((before ++ other :: after).map .dict)) = .ok later ∧
      (enabled entries = false → later = engine) ∧
      (enabled entries = true → ∃ first i last, engine.rules = first ++ i :: last ∧
        Declares entries i ∧
        ∀ (context : Context) (record : Record),
          let early := standings context record.subject first
          let own := (stand context (record.subject.changed early.changes) i).filed
          (i.severity = .error ∨ context.registry.isNotice i.rule.name = true ∨ own = [] →
            later.validate context record = engine.validate context record) ∧
          (i.severity = .warning → context.registry.isNotice i.rule.name = false →
            (∀ entry ∈ own, entry.1 = .warnings) ∧
            ((∃ e, early.outcome = .error e ∧
                later.validate context record = engine.validate context record) ∨
              Validation.PartMoved record early.filed own .errors (engine.validate context record)
                (later.validate context record)))) := by
  obtain ⟨first, found, last, isFound, rules, builds⟩ := build_between built
  have sameEnabled : enabled other = enabled entries := by
    rw [enabled, enabled, nulled.others "enabled" (by decide)]
  rcases Installed.ofEntries_cases isFound with ⟨off, rfl⟩ | ⟨on, i, rfl, declares⟩
  · have none : ofEntries other = .ok none :=
      Installed.ofEntries_of_disabled (sameEnabled.trans off)
    refine ⟨_, builds other _ none, fun _ => ?_, fun on => ?_⟩
    · rw [← rules]
    · exact absurd (off.symm.trans on) (by decide)
  · obtain ⟨j, declaresLater, name, places⟩ := null_level_places nulled declares
    have one : ofEntries other = .ok (some j) :=
      Installed.ofEntries_of_declares (sameEnabled.trans on) declaresLater
    have isRules : engine.rules = first ++ i :: last := by simp [rules]
    have isLater : first ++ (some j).toList ++ last = first ++ j :: last := by simp
    refine ⟨_, builds other _ one, fun off => ?_, fun _ => ?_⟩
    · exact absurd (off.symm.trans on) (by decide)
    refine ⟨first, i, last, isRules, declares, fun context record => ?_⟩
    intro early own
    have aimed := Installed.destination_of_unplaced declares nulled.unplaced context.registry
      (record.subject.changed early.changes)
    have placed := filed_by_stand aimed
    have moved := standings_partMoved name (places context) record.subject first last
    rw [← isRules, ← isLater] at moved
    change ∀ entry ∈ own, _ at placed
    change _ ∨ Run.PartMoved early.filed own _ _ _ at moved
    refine ⟨fun still => validate_of_same_standings ?_, fun warning loud => ⟨?_, ?_⟩⟩
    · rcases moved with ⟨_, _, same⟩ | moved
      · exact same
      · refine moved.same ?_
        rcases still with error | notice | nothing
        · refine Collection.holding_of_placed ?_
          simpa only [error, reduceCtorEq, decide_false, Bool.false_or, usual] using placed
        · refine Collection.holding_of_placed ?_
          simpa only [notice, Bool.or_true, reduceIte, usual] using placed
        · rw [nothing]
          rfl
    · simpa only [warning, decide_true, Bool.true_or, reduceIte] using placed
    · have isUsual : usual context i.rule = .errors := by
        rw [usual, loud]
        rfl
      rw [isUsual] at moved
      rcases moved with ⟨e, stops, same⟩ | moved
      · exact .inl ⟨e, stops, validate_of_same_standings same⟩
      · exact .inr (validate_partMoved moved)

/-- The rule that would like a title, declared with nothing as its collection. -/
def titleUnplaced : Entries :=
  [(.text "rule_name", .text "title"), (.text "rule_type", .text "must_be"),
    (.text "field_name", .text "title"), (.text "severity", .text "warning"),
    (.text "parameters", .dict [(.text "present", .bool true), (.text "error_level", .null)])]

/-- The engine with that rule. -/
def titleMisplaced : Engine where
  rules :=
    [{ name := .text "title", severity := .warning, kind := .mustBe,
       rule := { field := .text "title",
                 options := [(.text "present", .bool true), (.text "error_level", .null),
                   (.text "rule_name", .text "title")] } }]

theorem titleUnplaced_nullsLevel : NullsLevel titleDeclared titleUnplaced := by
  refine ⟨fun name apart => ?_, [(.text "present", .bool true)], [], by cbv, by cbv, by cbv⟩
  simp [titleDeclared, titleUnplaced, Entries.get?_cons_text, apart.symm]

/-- Nothing as the collection is not the same as no collection: a record without a title has a
    warning among its errors. -/
theorem titleUnplaced_writes_error :
    let context : Context := ⟨.empty, ⟨⟨2024, 5, 1, by decide⟩, 0, none, by decide⟩⟩
    let record : Record := ⟨⟨"A-1", none, none, [], none⟩, [], [], .pending⟩
    let unwritten : Entry := ⟨"title", "must be present.", [("rule_name", .text "title")]⟩
    NullsLevel titleDeclared titleUnplaced ∧
      ∃ engine later, build (.list [.dict titleDeclared]) = .ok engine ∧
        build (.list [.dict titleUnplaced]) = .ok later ∧
        ((engine.validate context record).record.errors = [] ∧
          (engine.validate context record).record.warnings = [unwritten] ∧
          (engine.validate context record).outcome
            = .ok ⟨"A-1", true, [], [], ["title"], [], []⟩) ∧
        (later.validate context record).record.errors = [unwritten] ∧
        (later.validate context record).record.warnings = [] ∧
        (later.validate context record).outcome
          = .ok ⟨"A-1", true, [], [], ["title"], [], ["Title must be present."]⟩ := by
  intro context record unwritten
  have built : build (.list [.dict titleDeclared]) = .ok titleWished := by cbv
  have builtLater : build (.list [.dict titleUnplaced]) = .ok titleMisplaced := by cbv
  refine ⟨titleUnplaced_nullsLevel, titleWished, titleMisplaced, built, builtLater, ⟨?_, ?_, ?_⟩,
    ?_, ?_, ?_⟩
  all_goals cbv

theorem startAndTitle_parts {first last : List Installed} {i : Installed}
    (rules : startRequired.rules ++ titleWished.rules = first ++ i :: last)
    (named : i.name = .text "title") :
    first = startRequired.rules ∧ i :: last = titleWished.rules := by
  rcases first with _ | ⟨a, _ | ⟨b, rest⟩⟩
  · obtain ⟨rfl, _⟩ := List.cons.inj rules
    simp at named
  · obtain ⟨rfl, isTitle⟩ := List.cons.inj rules
    exact ⟨rfl, isTitle.symm⟩
  · simp [startRequired, titleWished] at rules

/-- Beside a rule that asks for a start, too. -/
theorem titleUnplaced_moves_warning :
    let context : Context := ⟨.empty, ⟨⟨2024, 5, 1, by decide⟩, 0, none, by decide⟩⟩
    let record : Record := ⟨⟨"A-1", none, none, [], none⟩, [], [], .pending⟩
    ∃ later, build (.list (([startDeclared] ++ titleUnplaced :: []).map .dict)) = .ok later ∧
      (later.validate context record).record.errors
        = [⟨"start", "must be present.", [("rule_name", .text "start")]⟩,
          ⟨"title", "must be present.", [("rule_name", .text "title")]⟩] ∧
      (later.validate context record).record.warnings = [] ∧
      (later.validate context record).outcome = .ok ⟨"A-1", false, [], ["start"], ["title"], [],
        ["Start must be present.", "Title must be present."]⟩ := by
  intro context record
  let engine : Engine := ⟨startRequired.rules ++ titleWished.rules⟩
  have built : build (.list (([startDeclared] ++ titleDeclared :: []).map .dict)) = .ok engine := by
    cbv
  have returned : (engine.validate context record).outcome
      = .ok ⟨"A-1", false, [], ["start"], ["title"], [], ["Start must be present."]⟩ := by cbv
  obtain ⟨later, builtLater, _, wherever⟩ :=
    null_level_moves_warnings titleUnplaced_nullsLevel built
  obtain ⟨first, i, last, rules, declares, each⟩ := wherever (by cbv)
  have named : some i.name = some (.text "title") := declares.name ▸ by cbv
  obtain ⟨rfl, isTitle⟩ := startAndTitle_parts rules (Option.some.inj named)
  obtain ⟨isRule, rfl⟩ := List.cons.inj isTitle
  have early : (standings context record.subject startRequired.rules).Yields
      [(.errors, ⟨"start", "must be present.", [("rule_name", .text "start")]⟩)]
      [(.text "start", .failed)] := ⟨by cbv, by cbv⟩
  obtain ⟨_, moves⟩ := each context record
  obtain ⟨_, ⟨e, stops, _⟩ | moved⟩ := moves (by rw [isRule]) (by rw [isRule]; cbv)
  · cases early.2.symm.trans stops
  · obtain ⟨late, entries⟩ := moved.entries
    have changes : (standings context record.subject startRequired.rules).changes = [] := by cbv
    have own : (stand context (record.subject.changed
        (standings context record.subject startRequired.rules).changes) i).filed
        = [(.warnings, ⟨"title", "must be present.", [("rule_name", .text "title")]⟩)] := by
      rw [isRule, changes]
      cbv
    rw [early.1, own] at entries
    have were : ∀ c, (engine.validate context record).record.entries c = c.among
        [(.errors, ⟨"start", "must be present.", [("rule_name", .text "start")]⟩),
          (.warnings, ⟨"title", "must be present.", [("rule_name", .text "title")]⟩)] := by
      intro c
      cases c <;> cbv
    have noneLate (c : Collection) : c.among late = [] := by
      have same := (were c).symm.trans (entries c).1
      cases c <;> simpa [Collection.among, record, Record.entries] using same
    have errors : (later.validate context record).record.errors = _ :=
      (entries .errors).2.trans (by rw [Collection.among_append, noneLate])
    have warnings : (later.validate context record).record.warnings = _ :=
      (entries .warnings).2.trans (by rw [Collection.among_append, noneLate])
    refine ⟨later, builtLater, errors.trans (by cbv), warnings.trans (by cbv), ?_⟩
    rw [moved.outcome, returned, errors]
    cbv

end Engine

end RecordRules
