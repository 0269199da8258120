import RecordRules.Proofs.Rule.Directives
import RecordRules.Proofs.Rule.Judgement

/-!
# Escapes

A rule may offer as an escape that its value is blank, or that it is present, and it may be limited
to records on which other attributes are (`Rule.Escapes`). If that is all, it comes to a verdict on
any record, which is told by what is blank (`Rule.Escapes.verdict_iff`). Collections are blank when
they have no members, but a range never is (`Value.isBlank_iff_isVoid`). So empty lists, tuples,
sets and names of a mapping are all treated alike, and an empty range as if it had members
(`escapes_by_members`).
-/

namespace RecordRules

namespace Value

/-- That a collection has no members, and is no range. -/
def IsVoid (v : Value) : Prop := v.asSequence = [] ∧ ∀ p, v ≠ .range p

theorem isBlank_iff_isVoid {v : Value} (collection : v.isCollection = true) :
    v.isBlank = true ↔ v.IsVoid := by
  unfold IsVoid
  cases v with
  | list items | tuple items | set items | keys items =>
    simp [isBlank, asSequence, elements?]
  | range p => simp [isBlank]
  | _ => cases collection

/-- A range without members is a collection without members, but it is not blank. -/
theorem emptyRange_not_blank :
    ¬∀ v : Value, v.isCollection = true → (v.isBlank = true ↔ v.asSequence = []) := by
  intro agree
  have blank := (agree (.range ⟨0, 0, 1⟩) rfl).mpr rfl
  cases blank

end Value

theorem Subject.exists_read (subject : Subject) (name : String) :
    ∃ x, subject.read (.text name) = .ok x := by
  rw [read, Value.asKey_text]
  exact ⟨_, rfl⟩

namespace MustBe

/-- The two escapes, which are also conditions on other attributes. -/
inductive Escape where
  | blank
  | present
  deriving DecidableEq

namespace Escape

/-- The name of the option. -/
def name : Escape → String
  | blank => "blank"
  | present => "present"

/-- The check that an option stands for. -/
def check : Escape → Check
  | blank => .blank
  | present => .present

/-- The word for the condition. -/
def sentinel : Escape → Sentinel
  | blank => .blank
  | present => .present

/-- What is asked of a value. -/
def holds : Escape → Value → Bool
  | blank, v => v.isBlank
  | present, v => v.isPresent

/-- What is asked of a value that is blank just when something is so. -/
def Of (e : Escape) (empty : Prop) : Prop :=
  match e with
  | blank => empty
  | present => ¬empty

/-- Conditions on attributes, each of which is to be blank or present. -/
def conditions (asked : List (String × Escape)) : Entries :=
  asked.map fun (name, e) => (.text name, .sentinel e.sentinel)

variable {e : Escape} {v : Value}

theorem of_congr {empty other : Prop} (same : empty ↔ other) : e.Of empty ↔ e.Of other := by
  cases e with
  | blank => exact same
  | present => exact not_congr same

theorem isDirective_name (e : Escape) : isDirective (.text e.name) = true := by
  cases e <;> decide

theorem holds_iff_of (collection : v.isCollection = true) :
    e.holds v = true ↔ e.Of v.IsVoid := by
  cases e with
  | blank => exact Value.isBlank_iff_isVoid collection
  | present =>
    show (!v.isBlank) = true ↔ ¬v.IsVoid
    rw [← Value.isBlank_iff_isVoid collection, Bool.not_eq_true', Bool.not_eq_true]

theorem met_iff (e : Escape) (scene : Scene) :
    e.check.Met scene ↔ e.holds scene.value = true := by
  cases e <;> rfl

theorem run_check (e : Escape) (scene : Scene) :
    ∃ finding, (e.check.run scene).outcome = .ok finding := by
  cases e <;> exact ⟨_, rfl⟩

theorem holds_condition (subject : Subject) (e : Escape) (current : Value) :
    Condition.holds subject (.sentinel e.sentinel) current = .ok (e.holds current) := by
  cases e <;> cases current <;> rfl

theorem unmet_condition_iff {subject : Subject} {name : String} :
    Condition.Unmet subject (.text name, .sentinel e.sentinel) ↔
      ∃ x, subject.read (.text name) = .ok x ∧ e.holds x = false := by
  simp only [Condition.Unmet, holds_condition, Except.ok.injEq]

/-- Such conditions on attributes that go by texts come to something. -/
theorem clauses_total (subject : Subject) {field : Value} (isText : ∃ s, field = .text s)
    (asked : List (String × Escape)) :
    ∃ found, (Condition.clauses subject field (conditions asked)).outcome = .ok found := by
  obtain ⟨s, rfl⟩ := isText
  induction asked with
  | nil => exact ⟨_, rfl⟩
  | cons first rest ih =>
    obtain ⟨name, e⟩ := first
    obtain ⟨others, cameToo⟩ := ih
    obtain ⟨x, reads⟩ := subject.exists_read name
    have kept : subject.leave (.text name) (Condition.left (.sentinel e.sentinel) x) = subject :=
      Subject.leave_of_read reads
    have cameTo := holds_condition subject e x
    change ∃ found, (Condition.clauses subject (.text s)
      ((.text name, .sentinel e.sentinel) :: conditions rest)).outcome = .ok found
    unfold Condition.clauses
    cases held : e.holds x with
    | true =>
      rw [held] at cameTo
      obtain ⟨clause, isClause⟩ :
          ∃ clause, Condition.clause (.text name) (.sentinel e.sentinel) x = .ok clause := by
        cases e <;> exact ⟨_, rfl⟩
      refine ⟨others.map (clause :: ·), Trial.outcome_bind_iff.mpr ⟨x, reads, ?_⟩⟩
      refine Trial.outcome_bind_iff.mpr ⟨(), rfl, ?_⟩
      refine Trial.outcome_bind_iff.mpr ⟨true, cameTo, ?_⟩
      rw [if_pos rfl, kept]
      exact Trial.outcome_bind_iff.mpr
        ⟨clause, isClause, Trial.outcome_bind_iff.mpr ⟨others, cameToo, rfl⟩⟩
    | false =>
      rw [held] at cameTo
      refine ⟨none, Trial.outcome_bind_iff.mpr ⟨x, reads, ?_⟩⟩
      exact Trial.outcome_bind_iff.mpr
        ⟨(), rfl, Trial.outcome_bind_iff.mpr ⟨false, cameTo, rfl⟩⟩

theorem run_conditions (scene : Scene) (field : ∃ s, scene.field = .text s)
    (asked : List (String × Escape)) :
    ∃ finding, ((Check.conditions (.dict (conditions asked))).run scene).outcome = .ok finding := by
  obtain ⟨found, cameTo⟩ := clauses_total scene.subject field asked
  cases found with
  | none => exact ⟨_, Trial.outcome_bind_iff.mpr ⟨none, cameTo, rfl⟩⟩
  | some clauses =>
    cases clauses with
    | nil => exact ⟨_, Trial.outcome_bind_iff.mpr ⟨some [], cameTo, rfl⟩⟩
    | cons first rest => exact ⟨_, Trial.outcome_bind_iff.mpr ⟨some (first :: rest), cameTo, rfl⟩⟩

/-- For such conditions to be unmet it takes an attribute that is not as it is asked to be. -/
theorem met_conditions_iff {scene : Scene} {asked : List (String × Escape)} :
    (Check.conditions (.dict (conditions asked))).Met scene ↔
      ∃ name e x, (name, e) ∈ asked ∧ scene.subject.read (.text name) = .ok x ∧
        e.holds x = false := by
  have leave : ∀ condition ∈ conditions asked, ∀ current,
      Condition.left condition.2 current = current := by
    intro condition member current
    obtain ⟨_, _, rfl⟩ := List.mem_map.mp member
    rfl
  refine (Condition.someUnmet_iff_of_left leave).trans ?_
  constructor
  · rintro ⟨_, member, unmet⟩
    obtain ⟨⟨name, e⟩, isAsked, rfl⟩ := List.mem_map.mp member
    obtain ⟨x, reads, fails⟩ := unmet_condition_iff.mp unmet
    exact ⟨name, e, x, isAsked, reads, fails⟩
  · rintro ⟨name, e, x, isAsked, reads, fails⟩
    exact ⟨_, List.mem_map_of_mem isAsked, unmet_condition_iff.mpr ⟨x, reads, fails⟩⟩

end Escape

end MustBe

namespace Rule

open MustBe (Escape Check sceneOf)

/-- A rule that offers one escape and asks for nothing else, on records on which some attributes are
    blank or present. -/
structure Escapes (rule : Rule) (context : Context) (e : Escape)
    (asked : List (String × Escape)) : Prop extends rule.Ready context where
  given : (rule.options.option e.name).truthy = true
  alone : ∀ entry ∈ rule.options, MustBe.isDirective entry.1 = true → entry.1 = .text e.name
  under : rule.options.option "when" = .dict (Escape.conditions asked) ∨
    asked = [] ∧ rule.options.option "when" = .null

namespace Escapes

variable {rule : Rule} {context : Context} {e : Escape} {asked : List (String × Escape)}

theorem directivesIn (escapes : rule.Escapes context e asked) :
    MustBe.DirectivesIn rule.options [e.name] := fun entry member directive =>
  ⟨e.name, List.mem_singleton_self _, escapes.alone entry member directive⟩

theorem directed (escapes : rule.Escapes context e asked) :
    (rule.options.any fun (key, _) => MustBe.isDirective key) = true := by
  refine MustBe.any_isDirective_of_given e.name e.isDirective_name fun absent => ?_
  have given := escapes.given
  rw [absent] at given
  cases given

/-- Such a rule checks the escape, then no bounds, and then its conditions. -/
theorem checks_eq (escapes : rule.Escapes context e asked) : MustBe.checks rule.options =
    e.check :: .window [] (rule.options.option "time").truthy
      :: MustBe.ifGiven rule.options "when" .conditions := by
  have directives := escapes.directivesIn
  have given := escapes.given
  unfold MustBe.checks
  rw [directives.ifGiven_eq_nil "one_of" _ (by decide) (by cases e <;> decide),
    directives.ifGiven_eq_nil "not_any_of" _ (by decide) (by cases e <;> decide),
    directives.ifGiven_eq_nil "only_from" _ (by decide) (by cases e <;> decide),
    directives.givenBounds_eq_nil (fun d => by cases d <;> cases e <;> decide),
    directives.comparisons_eq_nil (fun c => by cases c <;> cases e <;> decide)]
  cases e with
  | blank =>
    have offered : (rule.options.option "blank").truthy = true := given
    rw [directives.option_eq_null "present" (by decide) (by decide), if_pos offered]
    rfl
  | present =>
    have offered : (rule.options.option "present").truthy = true := given
    rw [directives.option_eq_null "blank" (by decide) (by decide), if_pos offered]
    rfl

theorem eq_conditions_of_mem (escapes : rule.Escapes context e asked) {check : Check}
    (member : check ∈ MustBe.ifGiven rule.options "when" .conditions) :
    check = .conditions (.dict (Escape.conditions asked)) := by
  obtain ⟨there, rfl⟩ := MustBe.mem_ifGiven_iff.mp member
  rcases escapes.under with under | ⟨_, absent⟩
  · rw [under]
  · exact absurd absent there

theorem conditions_mem (escapes : rule.Escapes context e asked) (some : asked ≠ []) :
    .conditions (.dict (Escape.conditions asked))
      ∈ MustBe.ifGiven rule.options "when" .conditions := by
  rcases escapes.under with under | ⟨none, _⟩
  · exact MustBe.mem_ifGiven_iff.mpr ⟨by rw [under]; simp, by rw [under]⟩
  · exact absurd none some

theorem run_total (escapes : rule.Escapes context e asked) (subject : Subject) (v : Value) :
    ∃ verdict, (MustBe.run context rule subject v).outcome = .ok verdict := by
  have noLists := escapes.directivesIn.valueLists_eq (by cases e <;> decide)
    (by cases e <;> decide) (by cases e <;> decide)
  refine escapes.toReady.verdict_total escapes.directed (fun check member => ?_) noLists
  rw [escapes.checks_eq] at member
  rcases List.mem_cons.mp member with rfl | later
  · exact e.run_check _
  · rcases List.mem_cons.mp later with rfl | last
    · exact ⟨_, MustBe.run_window_nil escapes.field _⟩
    · obtain rfl := escapes.eq_conditions_of_mem last
      exact Escape.run_conditions _ escapes.field asked

/-- Such a rule comes to a verdict on any value: it passes just when the value is as the escape
    asks, or one of the attributes is not as it is to be. -/
theorem verdict_iff (escapes : rule.Escapes context e asked) (subject : Subject) (v : Value) :
    ∃ verdict, (MustBe.run context rule subject v).outcome = .ok verdict ∧
      (verdict = true ↔ e.holds v = true ∨ ∃ name c x, (name, c) ∈ asked ∧
        subject.read (.text name) = .ok x ∧ c.holds x = false) := by
  obtain ⟨verdict, returned⟩ := escapes.run_total subject v
  refine ⟨verdict, returned, ?_⟩
  rw [MustBe.verdict_iff_met returned, escapes.checks_eq]
  constructor
  · rintro (off | ⟨check, member, met⟩)
    · cases escapes.on.symm.trans off
    · rcases List.mem_cons.mp member with rfl | later
      · exact .inl ((e.met_iff _).mp met)
      · rcases List.mem_cons.mp later with rfl | last
        · -- Without bounds there is none that accepts the value.
          obtain ⟨_, _, _, none, _⟩ := met
          cases none
        · obtain rfl := escapes.eq_conditions_of_mem last
          exact .inr (Escape.met_conditions_iff.mp met)
  · rintro (holds | unmet)
    · exact .inr ⟨e.check, List.mem_cons_self, (e.met_iff _).mpr holds⟩
    · have some : asked ≠ [] := by
        obtain ⟨_, _, _, isAsked, _⟩ := unmet
        exact List.ne_nil_of_mem isAsked
      refine .inr ⟨_, ?_, Escape.met_conditions_iff.mpr unmet⟩
      exact List.mem_cons_of_mem _ (List.mem_cons_of_mem _ (escapes.conditions_mem some))

end Escapes

end Rule

namespace MustBe

/-- A collection is blank just when it has no members and is no range. A rule that offers an escape
    goes by that alone, for its value and for the attributes that are to be blank or present, where
    these are collections; so it does not tell one kind of empty collection from another, except
    ranges, which are present. -/
theorem escapes_by_members (context : Context) {subject : Subject} {rule : Rule} {e : Escape}
    {asked : List (String × Escape)} (escapes : rule.Escapes context e asked)
    (attributes : ∀ name c x, (name, c) ∈ asked → subject.read (.text name) = .ok x →
      x.isCollection = true) {v : Value} (collection : v.isCollection = true) :
    (v.isBlank = true ↔ v.asSequence = [] ∧ ∀ p, v ≠ .range p) ∧
    (∃ verdict, (run context rule subject v).outcome = .ok verdict ∧
      (verdict = true ↔ e.Of v.IsVoid ∨ ∃ name c x, (name, c) ∈ asked ∧
        subject.read (.text name) = .ok x ∧ ¬c.Of x.IsVoid)) ∧
    ∀ w : Value, w.isCollection = true → (w.IsVoid ↔ v.IsVoid) →
      (run context rule subject w).outcome = (run context rule subject v).outcome ∧
      ∀ c : Escape, Condition.holds subject (.sentinel c.sentinel) w
        = Condition.holds subject (.sentinel c.sentinel) v := by
  obtain ⟨verdict, returned, tells⟩ := escapes.verdict_iff subject v
  refine ⟨Value.isBlank_iff_isVoid collection, ⟨verdict, returned, ?_⟩, ?_⟩
  · rw [tells, Escape.holds_iff_of collection]
    refine or_congr_right ?_
    constructor
    · rintro ⟨name, c, x, isAsked, reads, fails⟩
      refine ⟨name, c, x, isAsked, reads, ?_⟩
      rw [← Escape.holds_iff_of (attributes name c x isAsked reads), fails]
      exact Bool.false_ne_true
    · rintro ⟨name, c, x, isAsked, reads, fails⟩
      refine ⟨name, c, x, isAsked, reads, ?_⟩
      rw [← Escape.holds_iff_of (attributes name c x isAsked reads)] at fails
      exact Bool.eq_false_iff.mpr fails
  · intro w collectionToo asVoid
    have alike (c : Escape) : c.holds w = c.holds v := by
      rw [Bool.eq_iff_iff, Escape.holds_iff_of collectionToo, Escape.holds_iff_of collection]
      exact Escape.of_congr asVoid
    obtain ⟨verdictToo, returnedToo, tellsToo⟩ := escapes.verdict_iff subject w
    have same : verdictToo = verdict := by rw [Bool.eq_iff_iff, tellsToo, tells, alike]
    refine ⟨by rw [returned, returnedToo, same], fun c => ?_⟩
    rw [Escape.holds_condition, Escape.holds_condition, alike]

/-- A rule that tags are to be blank where grades are present. -/
def tagsBlank : Rule where
  field := .text "tags"
  options := [(.text "blank", .bool true),
    (.text "when", .dict [(.text "grades", .sentinel .present)])]

theorem tagsBlank_escapes (context : Context)
    (on : context.registry.isDisabled tagsBlank.name = .ok false) :
    tagsBlank.Escapes context .blank [("grades", .present)] where
  on := on
  field := ⟨"tags", rfl⟩
  message := .inl (by cbv)
  level := .inl (by cbv)
  given := by cbv
  alone := by
    intro entry member directive
    rcases List.mem_cons.mp member with rfl | last
    · rfl
    · obtain rfl := List.mem_singleton.mp last
      exact absurd directive (by decide)
  under := .inl (by cbv)

/-- Where there are grades, no names as tags pass as blank, and a range without members does not.
    Where the grades are such a range, they still count as present. -/
theorem emptyRange_fails_tagsBlank :
    let context : Context := ⟨.empty, ⟨⟨2024, 6, 15, by decide⟩, 0, none, by decide⟩⟩
    let emptyRange : Value := .range ⟨0, 0, 1⟩
    let subject : Subject := ⟨"A-1", none, none, [("grades", emptyRange)], none⟩
    tagsBlank.Escapes context .blank [("grades", .present)] ∧
      subject.read (.text "grades") = .ok emptyRange ∧
      emptyRange.isCollection = true ∧ (Value.keys []).isCollection = true ∧
      (run context tagsBlank subject (.keys [])).outcome = .ok true ∧
      (run context tagsBlank subject emptyRange).outcome = .ok false := by
  intro context emptyRange subject
  have escapes := tagsBlank_escapes context (by cbv)
  have grades : subject.read (.text "grades") = .ok emptyRange := by cbv
  have notVoid : ¬emptyRange.IsVoid := by
    rintro ⟨_, noRange⟩
    exact noRange _ rfl
  have isVoid : (Value.keys []).IsVoid := by
    refine ⟨rfl, ?_⟩
    rintro p ⟨⟩
  have attributes : ∀ name c x, (name, c) ∈ [("grades", Escape.present)] →
      subject.read (.text name) = .ok x → x.isCollection = true := by
    intro name c x isAsked reads
    obtain ⟨rfl, rfl⟩ := Prod.mk.inj (List.mem_singleton.mp isAsked)
    obtain rfl := Except.ok.inj (grades.symm.trans reads)
    rfl
  have passes : (run context tagsBlank subject (.keys [])).outcome = .ok true := by
    obtain ⟨_, ⟨verdict, returned, tells⟩, _⟩ :=
      escapes_by_members context escapes attributes (v := .keys []) rfl
    rw [returned, tells.mpr (.inl isVoid)]
  have fails : (run context tagsBlank subject emptyRange).outcome = .ok false := by
    obtain ⟨_, ⟨verdict, returned, tells⟩, _⟩ :=
      escapes_by_members context escapes attributes (v := emptyRange) rfl
    have unmet : ¬verdict = true := by
      rw [tells]
      rintro (isVoid | ⟨name, c, x, isAsked, reads, fails⟩)
      · exact notVoid isVoid
      · obtain ⟨rfl, rfl⟩ := Prod.mk.inj (List.mem_singleton.mp isAsked)
        obtain rfl := Except.ok.inj (grades.symm.trans reads)
        exact fails notVoid
    rw [returned, Bool.eq_false_iff.mpr unmet]
  exact ⟨escapes, grades, rfl, rfl, passes, fails⟩

end MustBe

end RecordRules
