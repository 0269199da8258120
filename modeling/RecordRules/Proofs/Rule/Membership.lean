import RecordRules.Proofs.Rule.Directives
import RecordRules.Proofs.Rule.Judgement
import RecordRules.Proofs.Value.Sameness

/-!
# Memberships

A rule may ask that a value is among some values, that it is not, or that each of its members is. If
that is all that it asks, it passes just when what it asks holds (`Rule.Asks.passed_iff`), so the
second is the opposite of the first and the third is the first for each member
(`MustBe.membership_algebra`). The values are the leaves of the option, and which leaves these are
is all that counts.
-/

namespace RecordRules

namespace Value

/-- That a value, if it is a reference, goes by the name of something, which is a text. -/
def WellNamed : Value → Prop
  | field name | method name => ∃ s, name = text s
  | _ => True

/-- Just the references that go by no name cannot be shown. -/
theorem wellNamed_iff_exists_display (v : Value) : v.WellNamed ↔ ∃ s, v.display = .ok s := by
  cases v with
  | field name | method name =>
    cases name <;> simp [WellNamed, display, nameText]
  | _ => simp [WellNamed, display]

theorem exists_displayAll {values : List Value} (wellNamed : ∀ v ∈ values, v.WellNamed) :
    ∃ s, displayAll values = .ok s := by
  obtain ⟨shown, shows⟩ := exists_forall₂ (R := fun v s => display v = .ok s) fun v member =>
    (wellNamed_iff_exists_display v).mp (wellNamed v member)
  refine ⟨", ".intercalate shown, ?_⟩
  rw [displayAll, ok_mapM_iff.mpr shows]
  rfl

theorem exists_shown {v : Value} (wellNamed : v.WellNamed) : ∃ s, Bound.shown v = .ok s := by
  obtain ⟨s, shows⟩ := (wellNamed_iff_exists_display v).mp wellNamed
  cases v with
  | null => exact ⟨"", rfl⟩
  | _ => exact ⟨s, shows⟩

/-- A value is well named if each of its members is. -/
theorem wellNamed_of_asSequence {v : Value} (members : ∀ x ∈ v.asSequence, x.WellNamed) :
    v.WellNamed := by
  cases v with
  | field name | method name => exact members _ (List.mem_singleton_self _)
  | _ => trivial

end Value

namespace MustBe

/-- The three memberships that a rule may ask for. -/
inductive Membership where
  | oneOf
  | notAnyOf
  | onlyFrom
  deriving DecidableEq

namespace Membership

/-- The name of the option. -/
def name : Membership → String
  | oneOf => "one_of"
  | notAnyOf => "not_any_of"
  | onlyFrom => "only_from"

/-- The check that an option stands for. -/
def check : Membership → Value → Check
  | oneOf => .oneOf
  | notAnyOf => .notAnyOf
  | onlyFrom => .onlyFrom

/-- What is asked of a value: that it is among the leaves of the option, that it is not, or that
    its members are. -/
def Holds (m : Membership) (c v : Value) : Prop :=
  match m with
  | oneOf => v.memberOf c.flatten = true
  | notAnyOf => v.memberOf c.flatten = false
  | onlyFrom => ∀ x ∈ v.asSequence, x.memberOf c.flatten = true

variable {m other : Membership} {c : Value}

theorem isDirective_name (m : Membership) : isDirective (.text m.name) = true := by
  cases m <;> decide

theorem name_ne_of_ne (apart : other ≠ m) : other.name ≠ m.name := by
  cases other <;> cases m <;> first | exact absurd rfl apart | decide

theorem met_iff (m : Membership) (c : Value) (scene : Scene) :
    (m.check c).Met scene ↔ m.Holds c scene.value := by
  cases m <;> rfl

theorem run_of_holds (scene : Scene) (holds : m.Holds c scene.value) :
    ((m.check c).run scene).outcome = .ok .satisfied := by
  cases m with
  | oneOf =>
    simp only [check, Check.run, show scene.value.memberOf c.flatten = true from holds, reduceIte]
    rfl
  | notAnyOf =>
    simp only [check, Check.run, show scene.value.memberOf c.flatten = false from holds,
      Bool.false_eq_true, reduceIte]
    rfl
  | onlyFrom =>
    simp only [check, Check.run, List.all_eq_true.mpr holds, reduceIte]
    rfl

/-- A membership that does not hold leaves a sentence about the value, which can be shown. -/
theorem run_of_not_holds (scene : Scene) (fails : ¬m.Holds c scene.value)
    (wellNamed : ∀ x ∈ scene.value.asSequence, x.WellNamed) :
    ∃ edits, ((m.check c).run scene).outcome = .ok (.unsatisfied edits) := by
  obtain ⟨shown, shows⟩ := Value.exists_shown (Value.wellNamed_of_asSequence wellNamed)
  obtain ⟨members, showsMembers⟩ := Value.exists_displayAll wellNamed
  cases m with
  | oneOf =>
    refine ⟨[.replace (": '" ++ shown ++ "' is not a valid value")], ?_⟩
    simp only [check, Check.run, Bool.eq_false_iff.mpr fails, Bool.false_eq_true, reduceIte,
      notValid, shows]
    rfl
  | notAnyOf =>
    have among : scene.value.memberOf c.flatten = true := Bool.eq_true_of_not_eq_false fails
    refine ⟨[.replace (": '" ++ shown ++ "' is not a valid value")], ?_⟩
    simp only [check, Check.run, among, reduceIte, notValid, shows]
    rfl
  | onlyFrom =>
    have notAll : (scene.value.asSequence.all fun v => v.memberOf c.flatten) = false := by
      rw [Bool.eq_false_iff]
      exact fun all => fails (List.all_eq_true.mp all)
    refine ⟨[.replace (": " ++ members ++ " is not a valid value")], ?_⟩
    simp only [check, Check.run, notAll, Bool.false_eq_true, reduceIte, showsMembers]
    rfl

end Membership

end MustBe

namespace Rule

open MustBe (Membership)

/-- An enabled rule on an attribute that asks for one membership and nothing else, under no
    condition. Its message and the collection for its failures may be given, as what they are to
    be. -/
structure Asks (rule : Rule) (context : Context) (m : Membership) (c : Value) : Prop where
  on : context.registry.isDisabled rule.name = .ok false
  field : ∃ name, rule.field = .text name
  given : rule.options.option m.name = c
  there : c ≠ .null
  alone : ∀ entry ∈ rule.options, MustBe.isDirective entry.1 = true → entry.1 = .text m.name
  always : rule.options.option "when" = .null
  message : (rule.options.option "message").truthy = false ∨
    ∃ s, rule.options.option "message" = .text s
  level : rule.options.option "error_level" = .null ∨
    ∃ c : Collection, rule.options.option "error_level" = .text c.text

namespace Asks

variable {rule : Rule} {context : Context} {m : Membership} {c v : Value} {subject : Subject}

theorem directivesIn (asks : rule.Asks context m c) :
    MustBe.DirectivesIn rule.options [m.name] := fun entry member directive =>
  ⟨m.name, List.mem_singleton_self _, asks.alone entry member directive⟩

theorem option_eq_null_of_ne (asks : rule.Asks context m c) {other : Membership}
    (apart : other ≠ m) : rule.options.option other.name = .null :=
  asks.directivesIn.option_eq_null other.name other.isDirective_name
    fun known => Membership.name_ne_of_ne apart (List.mem_singleton.mp known)

theorem option_ne_null (asks : rule.Asks context m c) : rule.options.option m.name ≠ .null := by
  rw [asks.given]
  exact asks.there

theorem directed (asks : rule.Asks context m c) :
    (rule.options.any fun (key, _) => MustBe.isDirective key) = true :=
  MustBe.any_isDirective_of_given m.name m.isDirective_name asks.option_ne_null

theorem ifGiven_eq (asks : rule.Asks context m c) (other : Membership) :
    MustBe.ifGiven rule.options other.name other.check =
      if other = m then [m.check c] else [] := by
  by_cases isAsked : other = m
  · subst isAsked
    rw [MustBe.ifGiven_of_given asks.option_ne_null, asks.given, if_pos rfl]
  · rw [MustBe.ifGiven, asks.option_eq_null_of_ne isAsked, if_neg isAsked]

/-- Such a rule checks the membership, and then no bounds. -/
theorem checks_eq (asks : rule.Asks context m c) : MustBe.checks rule.options =
    [m.check c, .window [] (rule.options.option "time").truthy] := by
  have directives := asks.directivesIn
  have blank := directives.option_eq_null "blank" (by decide) (by cases m <;> decide)
  have present := directives.option_eq_null "present" (by decide) (by cases m <;> decide)
  have noBounds := directives.givenBounds_eq_nil fun d => by cases d <;> cases m <;> decide
  have noComparisons := directives.comparisons_eq_nil fun c => by cases c <;> cases m <;> decide
  have oneOf := asks.ifGiven_eq .oneOf
  have notAnyOf := asks.ifGiven_eq .notAnyOf
  have onlyFrom := asks.ifGiven_eq .onlyFrom
  simp only [Membership.name, Membership.check] at oneOf notAnyOf onlyFrom
  unfold MustBe.checks
  rw [blank, present, oneOf, notAnyOf, onlyFrom, noBounds, noComparisons,
    MustBe.ifGiven, asks.always]
  cases m <;> rfl

/-- The values that the rule lists can be shown if the leaves of its option can. -/
theorem exists_valueLists (asks : rule.Asks context m c)
    (wellNamed : ∀ x ∈ c.flatten, x.WellNamed) :
    ∃ lists, MustBe.valueLists rule.options = .ok lists := by
  have listed (other : Membership) (words : String) :
      ∃ s, MustBe.listed rule.options other.name words = .ok s := by
    unfold MustBe.listed
    by_cases isAsked : other = m
    · subst isAsked
      obtain ⟨shown, shows⟩ := Value.exists_displayAll wellNamed
      rw [asks.given]
      split
      · exact ⟨"", rfl⟩
      · rw [shows]
        exact ⟨_, rfl⟩
    · rw [asks.option_eq_null_of_ne isAsked]
      exact ⟨"", rfl⟩
  obtain ⟨first, isFirst⟩ := listed .oneOf "Valid values"
  obtain ⟨second, isSecond⟩ := listed .onlyFrom "Valid values"
  obtain ⟨third, isThird⟩ := listed .notAnyOf "Invalid values"
  simp only [Membership.name] at isFirst isSecond isThird
  unfold MustBe.valueLists
  rw [isFirst, isSecond, isThird]
  split
  · exact ⟨_, rfl⟩
  · exact ⟨_, rfl⟩

theorem judge_of_holds (asks : rule.Asks context m c) (holds : m.Holds c v) :
    (MustBe.judge rule.options (MustBe.sceneOf context rule subject v)).outcome = .ok none := by
  have satisfied := Membership.run_of_holds (MustBe.sceneOf context rule subject v) holds
  unfold MustBe.judge
  rw [asks.checks_eq, Trial.outcome_bind, MustBe.runChecks_of_satisfied satisfied]
  rfl

/-- A rule that asks what does not hold is judged with a message. -/
theorem judge_of_not_holds (asks : rule.Asks context m c) (subject : Subject)
    (fails : ¬m.Holds c v) (wellNamed : ∀ x ∈ v.asSequence, x.WellNamed)
    (leaves : ∀ x ∈ c.flatten, x.WellNamed) :
    ∃ s, (MustBe.judge rule.options (MustBe.sceneOf context rule subject v)).outcome
      = .ok (some (.text s)) := by
  obtain ⟨edits, unsatisfied⟩ :=
    Membership.run_of_not_holds (MustBe.sceneOf context rule subject v) fails wellNamed
  obtain ⟨lists, isLists⟩ := asks.exists_valueLists leaves
  obtain ⟨s, isText⟩ := Value.exists_orElse_text asks.message
    ((edits.foldl Message.edit Message.start).append lists).finish
  refine ⟨s, ?_⟩
  unfold MustBe.judge
  rw [asks.checks_eq, Trial.outcome_bind, MustBe.runChecks_of_unsatisfied unsatisfied,
    MustBe.runChecks_of_unsatisfied (MustBe.run_window_nil asks.field _), isLists, ← isText]
  rfl

theorem passed_iff (asks : rule.Asks context m c) (subject : Subject) (v : Value) :
    (MustBe.run context rule subject v).outcome = .ok true ↔ m.Holds c v := by
  constructor
  · intro passed
    rcases (MustBe.verdict_iff_met passed).mp rfl with off | ⟨check, member, met⟩
    · cases asks.on.symm.trans off
    · rw [asks.checks_eq] at member
      rcases List.mem_cons.mp member with rfl | last
      · exact (Membership.met_iff m c _).mp met
      · -- Without bounds there is none that accepts the value.
        obtain rfl := List.mem_singleton.mp last
        obtain ⟨_, _, _, none, _⟩ := met
        cases none
  · intro holds
    exact MustBe.passed_of_judged asks.on asks.directed (asks.judge_of_holds holds)

theorem failed_iff (asks : rule.Asks context m c) (subject : Subject)
    (wellNamed : ∀ x ∈ v.asSequence, x.WellNamed) (leaves : ∀ x ∈ c.flatten, x.WellNamed) :
    (MustBe.run context rule subject v).outcome = .ok false ↔ ¬m.Holds c v := by
  rw [← asks.passed_iff subject v]
  constructor
  · intro failed passed
    cases failed.symm.trans passed
  · intro notPassed
    obtain ⟨s, judged⟩ := asks.judge_of_not_holds subject
      (mt (asks.passed_iff subject v).mpr notPassed) wellNamed leaves
    exact MustBe.failed_of_judged asks.on asks.directed asks.field asks.level judged

end Asks

end Rule

namespace MustBe

variable {context : Context} {subject : Subject}

/-- What the verdicts on three memberships among the leaves of one option have to do with each
    other. -/
structure Algebra (c : Value) (verdict : Membership → Value → Except Fault Bool) : Prop where
  /-- Not to be among values is the opposite of being among them. -/
  opposite : ∀ v, verdict .notAnyOf v = .ok true ↔ verdict .oneOf v ≠ .ok true
  /-- What has members is to have each of them among the values. -/
  each : ∀ v, verdict .onlyFrom v = .ok true ↔ ∀ x ∈ v.asSequence, verdict .oneOf x = .ok true
  /-- Nothing has no members. -/
  nothing : verdict .onlyFrom .null = .ok true
  /-- The members of a collection are those at its top. -/
  collection : ∀ v items, v.elements? = some items →
    (verdict .onlyFrom v = .ok true ↔ ∀ x ∈ items, verdict .oneOf x = .ok true)
  /-- A value that is no collection is its own member. -/
  single : ∀ v, v ≠ .null → v.isCollection = false →
    (verdict .onlyFrom v = .ok true ↔ verdict .oneOf v = .ok true)
  /-- A rule that does not pass fails, where what its message names has a name. -/
  fails : (∀ x ∈ c.flatten, x.WellNamed) → ∀ v, (∀ x ∈ v.asSequence, x.WellNamed) →
    ∀ m, verdict m v = .ok false ↔ verdict m v ≠ .ok true

theorem Membership.holds_congr {c other : Value} (leaves : Value.SameLeaves c other)
    (m : Membership) (v : Value) : m.Holds c v ↔ m.Holds other v := by
  cases m <;> simp only [Membership.Holds, leaves.memberOf_eq]

theorem algebra_of_passes {c : Value} {verdict : Membership → Value → Except Fault Bool}
    (passes : ∀ m v, verdict m v = .ok true ↔ m.Holds c v)
    (fails : (∀ x ∈ c.flatten, x.WellNamed) → ∀ v, (∀ x ∈ v.asSequence, x.WellNamed) →
      ∀ m, verdict m v = .ok false ↔ ¬m.Holds c v) : Algebra c verdict where
  opposite v := by
    rw [passes, ne_eq, passes]
    exact Bool.not_eq_true _ ▸ Iff.rfl
  each v := by
    rw [passes]
    exact forall₂_congr fun x _ => (passes .oneOf x).symm
  nothing := (passes .onlyFrom .null).mpr fun _ member => absurd member List.not_mem_nil
  collection v items elements := by
    have sequence : v.asSequence = items := by
      cases v <;> cases elements <;> rfl
    rw [passes, Membership.Holds, sequence]
    exact forall₂_congr fun x _ => (passes .oneOf x).symm
  single v there noCollection := by
    have sequence : v.asSequence = [v] := by
      cases v with
      | null => exact absurd rfl there
      | list | tuple | set | keys | range => cases noCollection
      | _ => rfl
    rw [passes, passes]
    show (∀ x ∈ v.asSequence, x.memberOf c.flatten = true) ↔ v.memberOf c.flatten = true
    rw [sequence, List.forall_mem_singleton]
  fails leaves v members m := by
    rw [fails leaves v members m, ne_eq, passes]

/-- Three enabled rules, each of which asks for one membership among the same values, pass and fail
    by what these have to do with each other. Which leaves their option has is all that counts: a
    rule that asks the same of an option with the same leaves comes to the same. -/
theorem membership_algebra (context : Context) (subject : Subject) (c : Value)
    (rule : Membership → Rule) (asks : ∀ m, (rule m).Asks context m c) :
    let verdict := fun m v => (run context (rule m) subject v).outcome
    Algebra c verdict ∧
      ∀ (other : Value) (m : Membership) (ruleToo : Rule), Value.SameLeaves c other →
        ruleToo.Asks context m other → ∀ v,
          let verdictToo := (run context ruleToo subject v).outcome
          (verdictToo = .ok true ↔ verdict m v = .ok true) ∧
          ((∀ x ∈ c.flatten, x.WellNamed) → (∀ x ∈ other.flatten, x.WellNamed) →
            (∀ x ∈ v.asSequence, x.WellNamed) → verdictToo = verdict m v) := by
  intro verdict
  have passes (m : Membership) (v : Value) : verdict m v = .ok true ↔ m.Holds c v :=
    (asks m).passed_iff subject v
  refine ⟨algebra_of_passes passes fun leaves v members m =>
    (asks m).failed_iff subject members leaves, ?_⟩
  intro other m ruleToo leaves asksToo v verdictToo
  have passesToo : verdictToo = .ok true ↔ m.Holds c v :=
    (asksToo.passed_iff subject v).trans (Membership.holds_congr leaves m v).symm
  refine ⟨passesToo.trans (passes m v).symm, fun named namedToo members => ?_⟩
  by_cases holds : m.Holds c v
  · exact (passesToo.mpr holds).trans ((passes m v).mpr holds).symm
  · have fails := ((asks m).failed_iff subject members named).mpr holds
    have failsToo := (asksToo.failed_iff subject members namedToo).mpr
      (mt (Membership.holds_congr leaves m v).mpr holds)
    exact failsToo.trans fails.symm

/-- A rule on a grade that asks for a membership among some values. -/
def gradeAsking (m : Membership) (c : Value) : Rule where
  field := .text "grade"
  options := [(.text m.name, c), (.text "rule_name", .text "grades")]

theorem gradeAsking_asks {c : Value} (there : c ≠ .null) (m : Membership)
    (on : context.registry.isDisabled (.text "grades") = .ok false) :
    (gradeAsking m c).Asks context m c where
  on := by
    have isName : (gradeAsking m c).name = .text "grades" := by
      simp only [gradeAsking, Rule.name, Entries.option, Entries.get?_cons_text]
      cases m <;> rfl
    rw [isName, on]
  field := ⟨"grade", rfl⟩
  given := by simp [gradeAsking, Entries.option, Entries.get?_cons_text]
  there := there
  alone := by
    intro entry member directive
    rcases List.mem_cons.mp member with rfl | last
    · rfl
    · obtain rfl := List.mem_singleton.mp last
      exact absurd directive (by decide)
  always := by
    simp only [gradeAsking, Entries.option, Entries.get?_cons_text]
    cases m <;> rfl
  message := by
    left
    simp only [gradeAsking, Entries.option, Entries.get?_cons_text]
    cases m <;> rfl
  level := by
    left
    simp only [gradeAsking, Entries.option, Entries.get?_cons_text]
    cases m <;> rfl

/-- A grade that is not among a letter and a nested number is not among them either in another order
    and nested otherwise, nor where a truth value stands for the number in other collections; a list
    of the two has its members among them. -/
theorem failing_grade_is_not_among :
    let context : Context := ⟨.empty, ⟨⟨2024, 6, 15, by decide⟩, 0, none, by decide⟩⟩
    let subject : Subject := ⟨"A-1", none, none, [], none⟩
    let grades : Value := .list [.text "A", .list [.int 1]]
    let regraded : Value := .tuple [.set [.bool true], .text "A", .bool true]
    let nested : Value := .tuple [.set [.int 1], .list [.text "A", .text "A"]]
    let verdict := fun m c v => (run context (gradeAsking m c) subject v).outcome
    (∀ m, (gradeAsking m grades).Asks context m grades) ∧ Value.SameLeaves grades regraded ∧
      verdict .oneOf grades (.text "F") = .ok false ∧
      verdict .notAnyOf grades (.text "F") = .ok true ∧
      verdict .notAnyOf regraded (.text "F") = .ok true ∧
      verdict .notAnyOf nested (.text "F") = .ok true ∧
      verdict .onlyFrom grades (.list [.bool true, .text "A"]) = .ok true := by
  intro context subject grades regraded nested verdict
  have on : context.registry.isDisabled (.text "grades") = .ok false := by cbv
  have asks (m : Membership) : (gradeAsking m grades).Asks context m grades :=
    gradeAsking_asks (by simp [grades]) m on
  have asksToo : (gradeAsking .notAnyOf regraded).Asks context .notAnyOf regraded :=
    gradeAsking_asks (by simp [regraded]) .notAnyOf on
  have asksNested : (gradeAsking .notAnyOf nested).Asks context .notAnyOf nested :=
    gradeAsking_asks (by simp [nested]) .notAnyOf on
  have leaves : grades.flatten = [.text "A", .int 1] := rfl
  have leavesToo : regraded.flatten = [.bool true, .text "A", .bool true] := rfl
  have sameLeaves : Value.SameLeaves grades regraded := by
    rw [Value.SameLeaves, leaves, leavesToo]
    simp [Value.memberOf, Value.same, Value.sameAtom, Value.quantity?]
  have nestedLeaves : nested.flatten = [.int 1, .text "A", .text "A"] := rfl
  have sameNested : Value.SameLeaves grades nested := by
    refine Value.sameLeaves_of_mem_iff fun x => ?_
    rw [leaves, nestedLeaves]
    simp [or_comm]
  obtain ⟨algebra, alike⟩ :=
    membership_algebra context subject grades (fun m => gradeAsking m grades) asks
  have named : ∀ x ∈ grades.flatten, x.WellNamed := by
    rw [leaves]
    simp [Value.WellNamed]
  have single : ∀ x ∈ (Value.text "F").asSequence, x.WellNamed := by
    simp [Value.asSequence, Value.elements?, Value.WellNamed]
  have absent : ¬Membership.oneOf.Holds grades (.text "F") := by
    rw [Membership.Holds, leaves]
    simp [Value.memberOf, Value.same, Value.sameAtom, Value.quantity?]
  have fails : verdict .oneOf grades (.text "F") = .ok false :=
    ((asks .oneOf).failed_iff subject single named).mpr absent
  have opposite : verdict .notAnyOf grades (.text "F") = .ok true := by
    refine (algebra.opposite (.text "F")).mpr fun passed => ?_
    cases fails.symm.trans passed
  obtain ⟨passes, _⟩ := alike regraded .notAnyOf _ sameLeaves asksToo (.text "F")
  obtain ⟨passesNested, _⟩ := alike nested .notAnyOf _ sameNested asksNested (.text "F")
  refine ⟨asks, sameLeaves, fails, opposite, passes.mpr opposite, passesNested.mpr opposite, ?_⟩
  refine (algebra.collection _ _ rfl).mpr fun x member => ?_
  refine ((asks .oneOf).passed_iff subject x).mpr ?_
  obtain ⟨_, within⟩ := sameLeaves
  refine within x ?_
  rw [leavesToo]
  exact List.mem_cons_of_mem _ (by simpa [or_comm] using member)

end MustBe

end RecordRules
