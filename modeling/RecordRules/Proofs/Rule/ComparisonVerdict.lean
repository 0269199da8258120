import RecordRules.Proofs.Rule.Comparisons

/-!
# Verdicts on comparisons

A rule that only compares comes to a verdict, whatever the kinds of the value and of the operands: a
comparison that these rule out is not satisfied, and the note about it and the clause of the message
can be written where each operand has a text form (`MustBe.comparisons_decide`). To be equal and not
to be equal are opposites for every operand that stands for something, and an operand that stands
for nothing satisfies every comparison.
-/

namespace RecordRules

namespace Value

/-- An operand that is taken as it is, or the value of an attribute that goes by a text. -/
inductive PlainOperand : Value → Prop where
  | literal {x : Value} (literal : x.isLiteral = true) (wellNamed : x.WellNamed) : PlainOperand x
  | reference (name : String) : PlainOperand (field (.text name))

theorem PlainOperand.wellNamed {x : Value} (operand : x.PlainOperand) : x.WellNamed := by
  cases operand with
  | literal literal wellNamed => exact wellNamed
  | reference name => exact ⟨name, rfl⟩

theorem describe_total {v : Value} (wellNamed : v.WellNamed) : ∃ s, v.describe = .ok s := by
  obtain ⟨s, shows⟩ := (wellNamed_iff_exists_display v).mp wellNamed
  cases v with
  | pattern p => exact ⟨_, rfl⟩
  | _ => exact ⟨s, shows⟩

/-- Nothing is equal to nothing else. -/
theorem equals_null_left {v : Value} (there : v ≠ .null) : equals .null v = false := by
  cases v with
  | null => exact absurd rfl there
  | _ => simp [equals, same, sameAtom, quantity?]

end Value

/-- That the values of a record have text forms. -/
def Subject.WellNamed (subject : Subject) : Prop :=
  ∀ name v, subject.read (.text name) = .ok v → v.WellNamed

/-- What is read of a record is one of its attributes in force, or nothing. -/
theorem Subject.wellNamed_of_payload {subject : Subject}
    (attributes : ∀ entry ∈ subject.payload, entry.2.WellNamed) : subject.WellNamed := by
  intro name v reads
  rw [read, Value.asKey_text] at reads
  obtain rfl := Except.ok.inj reads
  rw [Payload.get?]
  cases found : subject.payload.lookup name with
  | none => trivial
  | some v =>
    obtain ⟨before, later, split, _⟩ := List.lookup_eq_some_iff.mp found
    exact attributes (name, v) (by simp [split])

/-- Plain operands stand for something with a text form, or for nothing. -/
theorem Subject.resolve_total {subject : Subject} {x : Value} (named : subject.WellNamed)
    (operand : x.PlainOperand) :
    ∃ resolved, subject.resolve x = .ok resolved ∧ resolved.WellNamed := by
  cases operand with
  | literal literal wellNamed => exact ⟨x, subject.resolve_of_isLiteral literal, wellNamed⟩
  | reference name =>
    have reads : subject.read (.text name)
        = .ok ((subject.payload.get? (.text name)).getD .null) := by
      rw [read, Value.asKey_text]
      rfl
    exact ⟨_, reads, named name _ reads⟩

namespace Comparator

variable {c : Comparator} {value operand resolved : Value}

/-- Nothing at all is equal to something. -/
theorem met_equalTo_iff (there : operand ≠ .null) :
    equalTo.Met value operand ↔ value.equals operand = true := by
  by_cases absent : value = .null
  · rw [absent, Value.equals_null_left there]
    simp [Met, there]
  · rw [met_iff_holds absent there, holds, Except.ok.injEq]

theorem met_notEqualTo_iff (there : operand ≠ .null) :
    notEqualTo.Met value operand ↔ value.equals operand = false := by
  by_cases absent : value = .null
  · rw [absent, Value.equals_null_left there]
    simp [Met, Value.equals_null_left there]
  · rw [met_iff_holds absent there, holds, Except.ok.injEq, Bool.not_eq_true']

/-- The kinds of two values are all that can keep them from being compared. -/
theorem family_of_refused {e : Fault} (noExpression : c ≠ .matching)
    (refused : c.holds value operand = .error e) : e.family = .type := by
  cases c with
  | equalTo | notEqualTo => cases refused
  | greaterThan | greaterOrEqualTo | lessThan | lessOrEqualTo =>
    exact Value.family_of_ordered value operand refused
  | matching => exact absurd rfl noExpression

/-- A comparison that is refused is tried in vain, and leaves a note. -/
theorem attempt_of_refused {e : Fault} (name : String) (noExpression : c ≠ .matching)
    (wellNamed : operand.WellNamed) (refused : c.holds value operand = .error e) :
    (c.attempt (.text name) value operand).outcome = .ok false := by
  obtain ⟨shown, shows⟩ := Value.describe_total wellNamed
  unfold attempt
  rw [refused]
  simp only [family_of_refused noExpression refused, reduceIte, shows]
  rfl

theorem satisfied_total (name : String) (value : Value) (noExpression : c ≠ .matching)
    (wellNamed : operand.WellNamed) :
    ∃ b, (c.satisfied (.text name) value operand).outcome = .ok b := by
  by_cases nothing : operand = .null
  · rw [nothing]
    exact ⟨true, rfl⟩
  by_cases absent : value = .null
  · rw [absent]
    exact ⟨_, satisfied_of_absent c _ nothing⟩
  rw [satisfied_of_present c _ nothing absent]
  cases held : c.holds value operand with
  | ok b =>
    rw [attempt, held]
    exact ⟨_, rfl⟩
  | error e =>
    rw [attempt_of_refused name noExpression wellNamed held]
    exact ⟨_, rfl⟩

/-- A comparison that the kinds of the two values rule out is not satisfied. -/
theorem satisfied_of_refused {e : Fault} (name : String) (noExpression : c ≠ .matching)
    (wellNamed : operand.WellNamed) (there : operand ≠ .null)
    (refused : c.holds value operand = .error e) :
    (c.satisfied (.text name) value operand).outcome = .ok false := by
  obtain ⟨b, came⟩ := satisfied_total name value noExpression wellNamed
  cases b with
  | false => exact came
  | true =>
    -- What cannot be compared can still be told apart, but no such comparison is refused.
    rcases ((satisfied_iff_met came).mp rfl).resolve_left there with ⟨_, held⟩ | ⟨rfl, _⟩
    · cases refused.symm.trans held
    · cases refused

theorem clause_total (noExpression : c ≠ .matching) (wellNamed : operand.WellNamed)
    (wellNamedToo : resolved.WellNamed) : ∃ s, c.clause operand resolved = .ok s := by
  have shown : ∃ v, c.shown operand resolved = .ok v ∧ v.WellNamed := by
    unfold shown
    split
    · exact ⟨_, rfl, wellNamed⟩
    · exact ⟨_, rfl, wellNamedToo⟩
    · rw [if_neg noExpression]
      exact ⟨_, rfl, wellNamedToo⟩
  obtain ⟨v, isShown, vNamed⟩ := shown
  obtain ⟨s, shows⟩ := Value.describe_total vNamed
  exact ⟨_, ok_bind_iff.mpr ⟨v, isShown, ok_bind_iff.mpr ⟨s, shows, rfl⟩⟩⟩

end Comparator

namespace Rule

open MustBe (Check sceneOf)

/-- A rule that asks for comparisons with plain operands, none of them for a match with an
    expression, and has no message of its own. The collection for its failures may be given. -/
structure ComparesPlainly (rule : Rule) (context : Context) : Prop
    extends rule.Compares context where
  operands : ∀ (c : Comparator) x, (.text c.name, x) ∈ rule.options →
    c ≠ .matching ∧ x.PlainOperand
  message : (rule.options.option "message").truthy = false
  level : rule.options.option "error_level" = .null ∨
    ∃ c : Collection, rule.options.option "error_level" = .text c.text

namespace ComparesPlainly

variable {rule : Rule} {context : Context} {subject : Subject} {v : Value}

/-- Each of its comparisons comes to something. -/
theorem comparison_total (plain : rule.ComparesPlainly context) (named : subject.WellNamed) :
    ∀ check ∈ MustBe.comparisons rule.options,
      ∃ finding, (check.run (sceneOf context rule subject v)).outcome = .ok finding := by
  intro check member
  obtain ⟨c, x, asked, rfl⟩ := MustBe.mem_comparisons_iff.mp member
  obtain ⟨noExpression, operand⟩ := plain.operands c x asked
  obtain ⟨resolved, resolves, wellNamed⟩ := subject.resolve_total named operand
  obtain ⟨name, isName⟩ := plain.field
  obtain ⟨held, satisfied⟩ := Comparator.satisfied_total name v noExpression wellNamed
  obtain ⟨text, clause⟩ := Comparator.clause_total noExpression operand.wellNamed wellNamed
  rw [MustBe.outcome_comparison resolves]
  simp only [sceneOf, isName, satisfied]
  cases held with
  | true => exact ⟨.satisfied, rfl⟩
  | false =>
    refine ⟨.unsatisfied [.append text], ok_bind_iff.mpr ⟨false, rfl, ?_⟩⟩
    exact ok_bind_iff.mpr ⟨text, clause, rfl⟩

/-- It comes to a verdict. -/
theorem run_total (plain : rule.ComparesPlainly context) (named : subject.WellNamed) (v : Value) :
    ∃ verdict, (MustBe.run context rule subject v).outcome = .ok verdict := by
  have ready : rule.Ready context := ⟨plain.on, plain.field, .inl plain.message, plain.level⟩
  have noLists := plain.directivesIn.valueLists_eq (by decide) (by decide) (by decide)
  refine ready.verdict_total plain.directed ?_ noLists
  rw [plain.checks_eq]
  exact List.forall_mem_cons.mpr
    ⟨⟨_, MustBe.run_window_nil plain.field _⟩, plain.comparison_total named⟩

end ComparesPlainly

end Rule

namespace MustBe

/-- What rules that compare come to on a value. -/
structure Decide (context : Context) (subject : Subject) (v : Value) : Prop where
  /-- A rule comes to a verdict: that one of its comparisons is met, or that none is. -/
  verdict : ∀ rule : Rule, rule.ComparesPlainly context →
    ∃ b, (run context rule subject v).outcome = .ok b ∧
      (b = true ↔ ∃ (c : Comparator) (x resolved : Value), (.text c.name, x) ∈ rule.options ∧
        subject.resolve x = .ok resolved ∧ c.Met v resolved)
  /-- A comparison that the kinds of the two values rule out is not satisfied. -/
  refused : ∀ rule : Rule, rule.ComparesPlainly context →
    ∀ (c : Comparator) (x resolved : Value) (e : Fault), (.text c.name, x) ∈ rule.options →
      subject.resolve x = .ok resolved → resolved ≠ .null → c.holds v resolved = .error e →
        e.family = .type ∧ (c.satisfied rule.field v resolved).outcome = .ok false
  /-- To be equal and not to be equal are opposites, also of nothing. -/
  opposite : ∀ x resolved, subject.resolve x = .ok resolved → resolved ≠ .null →
    ∀ equal differs : Rule, equal.ComparesOnce context .equalTo x →
      differs.ComparesOnce context .notEqualTo x → differs.ComparesPlainly context →
        ((run context equal subject v).outcome = .ok true ↔
          (run context differs subject v).outcome = .ok false)
  /-- What stands for nothing satisfies every comparison. -/
  nothing : ∀ x, subject.resolve x = .ok .null → ∀ (c : Comparator) (rule : Rule),
    rule.ComparesOnce context c x → (run context rule subject v).outcome = .ok true

/-- Rules that only compare come to a verdict, whatever the value and the kinds of the operands. -/
theorem comparisons_decide (context : Context) {subject : Subject} (named : subject.WellNamed)
    (v : Value) : Decide context subject v where
  verdict rule plain := by
    obtain ⟨b, came⟩ := plain.run_total named v
    refine ⟨b, came, ?_⟩
    rw [plain.verdict_iff came]
    constructor
    · rintro ⟨check, member, met⟩
      obtain ⟨c, x, asked, rfl⟩ := mem_comparisons_iff.mp member
      obtain ⟨resolved, resolves, met⟩ := met
      exact ⟨c, x, resolved, asked, resolves, met⟩
    · rintro ⟨c, x, resolved, asked, resolves, met⟩
      exact ⟨.comparison c x, mem_comparisons_iff.mpr ⟨c, x, asked, rfl⟩, resolved, resolves, met⟩
  refused rule plain c x resolved e asked resolves there refused := by
    obtain ⟨noExpression, operand⟩ := plain.operands c x asked
    obtain ⟨again, resolvesToo, wellNamed⟩ := subject.resolve_total named operand
    obtain rfl := Except.ok.inj (resolves.symm.trans resolvesToo)
    obtain ⟨name, isName⟩ := plain.field
    rw [isName]
    exact ⟨Comparator.family_of_refused noExpression refused,
      Comparator.satisfied_of_refused name noExpression wellNamed there refused⟩
  opposite x resolved resolves there equal differs asksEqual asksDiffers plain := by
    have passes {c : Comparator} {rule : Rule} (asks : rule.ComparesOnce context c x) :
        (run context rule subject v).outcome = .ok true ↔ c.Met v resolved := by
      rw [asks.passed_iff subject v, resolves]
      simp
    obtain ⟨b, came⟩ := plain.run_total named v
    rw [passes asksEqual, Comparator.met_equalTo_iff there]
    have differ := (passes asksDiffers).trans (Comparator.met_notEqualTo_iff there)
    rw [came] at differ ⊢
    cases b <;> simp at differ ⊢ <;> exact differ
  nothing x resolves c rule asks :=
    (asks.passed_iff subject v).mpr ⟨.null, resolves, .inl rfl⟩

theorem gradeCompared_comparesPlainly (context : Context) {asked : List (Comparator × Value)}
    (some : asked ≠ []) (plain : ∀ entry ∈ asked, entry.1 ≠ .matching ∧ entry.2.PlainOperand) :
    (gradeCompared asked).ComparesPlainly context where
  toCompares := gradeCompared_compares context some
  operands c x listed := by
    obtain ⟨⟨c', x'⟩, member, same⟩ := List.mem_map.mp listed
    obtain ⟨sameName, rfl⟩ := Prod.mk.inj same
    have isSame : c' = c := by
      revert sameName
      cases c' <;> cases c <;> simp [Comparator.name]
    exact isSame ▸ plain _ member
  message := by
    rw [gradeCompared_option asked (by intro c; cases c <;> decide)]
    rfl
  level := .inl (gradeCompared_option asked (by intro c; cases c <;> decide))

/-- Grades in a list. -/
def listedGrades : Value := .list [.text "A", .text "B"]

/-- The date on which grades are due. -/
def dueDate : Value := .date ⟨2024, 6, 30, by decide⟩

/-- The attribute in which this date is found. -/
def due : Value := .field (.text "due")

/-- A list of grades cannot be less than a date, so a rule that asks for that fails; it is not equal
    to that date either. -/
theorem listed_grades_fail :
    let context : Context := ⟨.empty, ⟨⟨2024, 6, 15, by decide⟩, 0, none, by decide⟩⟩
    let subject : Subject :=
      ⟨"A-1", none, none, [("grade", listedGrades), ("due", dueDate)], none⟩
    let verdict := fun c x => (run context (gradeCompared [(c, x)]) subject listedGrades).outcome
    subject.WellNamed ∧ verdict .lessThan due = .ok false ∧ verdict .notEqualTo due = .ok true ∧
      verdict .equalTo due ≠ .ok true ∧
      verdict .greaterThan (.field (.text "other")) = .ok true := by
  intro context subject verdict
  have named : subject.WellNamed := Subject.wellNamed_of_payload (by
    simp [subject, Subject.payload, listedGrades, dueDate, Value.WellNamed])
  have decide := comparisons_decide context named listedGrades
  have resolves : subject.resolve due = .ok dueDate := by cbv
  have unset : subject.resolve (.field (.text "other")) = .ok .null := by cbv
  have isThere : listedGrades ≠ .null := by simp [listedGrades]
  have there : dueDate ≠ .null := by simp [dueDate]
  have once := gradeCompared_comparesOnce context
  have plain (c : Comparator) (noExpression : c ≠ .matching) :
      (gradeCompared [(c, due)]).ComparesPlainly context :=
    gradeCompared_comparesPlainly context (by simp)
      (List.forall_mem_singleton.mpr ⟨noExpression, .reference "due"⟩)
  have fails : verdict .lessThan due = .ok false := by
    obtain ⟨b, came, _⟩ := decide.verdict _ (plain .lessThan (by simp))
    cases b with
    | false => exact came
    | true =>
      obtain ⟨resolved, again, met⟩ := ((once .lessThan due).passed_iff _ _).mp came
      obtain rfl := Except.ok.inj (resolves.symm.trans again)
      cases (Comparator.met_iff_holds isThere there).mp met
  have differs : verdict .notEqualTo due = .ok true := by
    refine ((once .notEqualTo due).passed_iff subject listedGrades).mpr ⟨dueDate, resolves, ?_⟩
    refine (Comparator.met_notEqualTo_iff there).mpr ?_
    simp [listedGrades, dueDate, Value.equals, Value.same, Value.sameAtom, Value.quantity?]
  have opposite := decide.opposite due dueDate resolves there _ _ (once .equalTo due)
    (once .notEqualTo due) (plain .notEqualTo (by simp))
  refine ⟨named, fails, differs, fun equal => ?_, ?_⟩
  · cases differs.symm.trans (opposite.mp equal)
  · exact decide.nothing _ unset .greaterThan _ (once .greaterThan _)

end MustBe

end RecordRules
