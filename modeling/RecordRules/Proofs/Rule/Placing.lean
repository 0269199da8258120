import RecordRules.Proofs.Rule.Filing

/-!
# Entries in another collection

The collection of a rule decides where its entries go and nothing else. A run with its entries moved
is made of steps with their entries moved (`placing_bind`), so a rule whose failures go elsewhere
runs as it did, to the same verdict and with the same notes and entries, in the other collection
(`runOn_placing`). It is the same whether the registry sends them elsewhere or the rule itself does,
by what it says of the collection (`Rule.Rerouted`).
-/

namespace RecordRules

variable {α β : Type}

/-- What has been filed, all of it in one collection. -/
def Collection.holding (c : Collection) (filed : List (Collection × Entry)) :
    List (Collection × Entry) :=
  filed.map fun entry => (c, entry.2)

/-- What is in a collection already is not moved. -/
theorem Collection.holding_of_placed {c : Collection} {filed : List (Collection × Entry)}
    (placed : ∀ entry ∈ filed, entry.1 = c) : c.holding filed = filed := by
  have kept : ∀ entry ∈ filed, (c, entry.2) = entry := by
    intro entry member
    rw [← placed entry member]
  rw [holding, List.map_congr_left kept, List.map_id']

namespace Run

/-- A run with all its entries in one collection. -/
def placing (r : Run α) (c : Collection) : Run α := { r with filed := c.holding r.filed }

theorem placing_pure (a : α) (c : Collection) : (Pure.pure a : Run α).placing c = Pure.pure a := rfl

theorem placing_stop (e : Fault) (c : Collection) : (stop e : Run α).placing c = stop e := rfl

theorem placing_lift (outcome : Except Fault α) (c : Collection) :
    (liftM outcome : Run α).placing c = liftM outcome := rfl

theorem placing_trial (t : Trial α) (c : Collection) :
    (liftM t : Run α).placing c = liftM t := rfl

theorem placing_bind (r : Run α) (next : α → Run β) (c : Collection) :
    (r >>= next).placing c = r.placing c >>= fun a => (next a).placing c := by
  show (bind r next).placing c = bind (r.placing c) fun a => (next a).placing c
  unfold bind placing
  cases r.outcome <;> simp [Collection.holding]

/-- An entry that is made for one collection and moved is one made for the other. -/
theorem placing_file (d c : Collection) (name message ruleName : Value) (next : Unit → Run α) :
    ((liftM ((Destination.collection d).file name message ruleName) : Run _) >>= fun filed =>
        file filed >>= next).placing c
      = (liftM ((Destination.collection c).file name message ruleName) : Run _) >>= fun filed =>
        file filed >>= fun u => (next u).placing c := by
  unfold Destination.file
  cases Entry.make name message [("rule_name", ruleName)] <;> rfl

theorem bind_congr {r : Run α} {next others : α → Run β} (same : ∀ a, next a = others a) :
    (r >>= next) = r >>= others :=
  congrArg (r >>= ·) (funext same)

end Run

/-! ## Rules that differ by their collection -/

/-- Two rules that differ at most by what they say of the collection for their failures. -/
structure Rule.SameButLevel (rule other : Rule) : Prop where
  field : other.field = rule.field
  lookup : ∀ name, name ≠ "error_level" →
    other.options.get? (.text name) = rule.options.get? (.text name)
  comparisons : MustBe.comparisons other.options = MustBe.comparisons rule.options
  directed : (other.options.any fun (key, _) => MustBe.isDirective key)
    = rule.options.any fun (key, _) => MustBe.isDirective key

/-- Two rules under two contexts, with no more between them than the collections that their failures
    go to. -/
structure Rule.Rerouted (rule other : Rule) (subject : Subject) (context later : Context)
    (d c : Collection) : Prop where
  same : rule.SameButLevel other
  clock : later.clock = context.clock
  disabled : later.registry.isDisabled rule.name = context.registry.isDisabled rule.name
  source : rule.destination context.registry subject = .ok (.collection d)
  target : other.destination later.registry subject = .ok (.collection c)

/-- Two contexts in which a rule differs at most by the collection that its failures go to. -/
structure Rule.Moved (rule : Rule) (subject : Subject) (context other : Context)
    (d c : Collection) : Prop where
  clock : other.clock = context.clock
  disabled : other.registry.isDisabled rule.name = context.registry.isDisabled rule.name
  source : rule.destination context.registry subject = .ok (.collection d)
  target : rule.destination other.registry subject = .ok (.collection c)

variable {rule other : Rule} {subject : Subject} {context later : Context} {d c : Collection}

theorem Rule.Moved.rerouted (moved : rule.Moved subject context later d c) :
    rule.Rerouted rule subject context later d c where
  same := ⟨rfl, fun _ _ => rfl, rfl, rfl⟩
  clock := moved.clock
  disabled := moved.disabled
  source := moved.source
  target := moved.target

namespace Rule.SameButLevel

theorem option (same : rule.SameButLevel other) (name : String) (apart : name ≠ "error_level") :
    other.options.option name = rule.options.option name := by
  rw [Entries.option, Entries.option, same.lookup name apart]

theorem name (same : rule.SameButLevel other) : other.name = rule.name :=
  same.option "rule_name" (by decide)

theorem ifGiven (same : rule.SameButLevel other) (name : String) (apart : name ≠ "error_level")
    (check : Value → MustBe.Check) :
    MustBe.ifGiven other.options name check = MustBe.ifGiven rule.options name check := by
  rw [MustBe.ifGiven, MustBe.ifGiven, same.option name apart]

theorem listed (same : rule.SameButLevel other) (name words : String)
    (apart : name ≠ "error_level") :
    MustBe.listed other.options name words = MustBe.listed rule.options name words := by
  rw [MustBe.listed, MustBe.listed, same.option name apart]

theorem givenBounds (same : rule.SameButLevel other) :
    MustBe.givenBounds other.options = MustBe.givenBounds rule.options := by
  unfold MustBe.givenBounds
  refine List.filterMap_congr fun d _ => ?_
  rw [same.option d.text (by cases d <;> decide)]

theorem checks (same : rule.SameButLevel other) :
    MustBe.checks other.options = MustBe.checks rule.options := by
  unfold MustBe.checks
  rw [same.option "blank" (by decide), same.option "present" (by decide),
    same.option "time" (by decide), same.ifGiven "one_of" (by decide),
    same.ifGiven "not_any_of" (by decide), same.ifGiven "only_from" (by decide),
    same.ifGiven "when" (by decide), same.givenBounds, same.comparisons]

theorem judge (same : rule.SameButLevel other) (scene : MustBe.Scene) :
    MustBe.judge other.options scene = MustBe.judge rule.options scene := by
  have lists : MustBe.valueLists other.options = MustBe.valueLists rule.options := by
    unfold MustBe.valueLists
    rw [same.lookup "show_values" (by decide), same.listed "one_of" _ (by decide),
      same.listed "only_from" _ (by decide), same.listed "not_any_of" _ (by decide)]
  unfold MustBe.judge
  rw [same.checks, lists, same.option "message" (by decide)]

end Rule.SameButLevel

theorem MustBe.run_placing (rerouted : rule.Rerouted other subject context later d c)
    (value : Value) :
    run later other subject value = (run context rule subject value).placing c := by
  unfold run
  rw [rerouted.same.name, rerouted.same.field, rerouted.same.directed, rerouted.clock,
    rerouted.disabled, rerouted.source, rerouted.target, Run.placing_bind, Run.placing_lift]
  refine Run.bind_congr fun off => ?_
  cases off with
  | true =>
    simp only [reduceIte, Run.placing_bind, Run.placing_lift, Run.placing_trial, Run.placing_pure]
  | false =>
    simp only [Bool.false_eq_true, reduceIte]
    split
    · simp only [Run.placing_bind, Run.placing_lift, Run.placing_stop]
    · rw [rerouted.same.judge, Run.placing_bind, Run.placing_trial]
      refine Run.bind_congr fun judgement => ?_
      cases judgement with
      | none => rfl
      | some message =>
        simp only [Run.lift_ok_bind]
        rw [Run.placing_file]
        simp only [Run.placing_bind, Run.placing_lift, Run.placing_trial, Run.placing_pure]

namespace DateRule

theorem runUnread_placing (same : rule.SameButLevel other) (d c : Collection)
    (asReceived : Value) :
    runUnread other (.collection c) asReceived
      = (runUnread rule (.collection d) asReceived).placing c := by
  unfold runUnread
  rw [same.name, same.field, same.option "allow_blank" (by decide), same.option "time" (by decide),
    same.option "message" (by decide)]
  split
  · rfl
  · rw [Run.placing_bind, Run.placing_lift]
    refine Run.bind_congr fun shown => ?_
    rw [Run.placing_file]
    rfl

theorem runBound_placing (same : rule.SameButLevel other) (clock : later.clock = context.clock)
    (subject : Subject) (d c : Collection) (value asReceived : Value) (direction : Direction) :
    runBound later other subject (.collection c) value asReceived direction
      = (runBound context rule subject (.collection d) value asReceived direction).placing c := by
  unfold runBound
  rw [clock, same.name, same.field, same.option "time" (by decide),
    same.option direction.text (by cases direction <;> decide),
    same.option (direction.text ++ "_message") (by cases direction <;> decide)]
  split
  · rfl
  · rw [Run.placing_bind, Run.placing_lift]
    refine Run.bind_congr fun evaluation => ?_
    cases evaluation with
    | none => rfl
    | some failure =>
      dsimp only
      rw [Run.placing_file]
      simp only [Run.placing_bind, Run.placing_lift, Run.placing_trial, Run.placing_pure]

theorem run_placing (rerouted : rule.Rerouted other subject context later d c) (value : Value) :
    run later other subject value = (run context rule subject value).placing c := by
  unfold run
  rw [rerouted.same.name, rerouted.same.field, rerouted.disabled, rerouted.source, rerouted.target,
    Run.placing_bind, Run.placing_lift]
  refine Run.bind_congr fun off => ?_
  cases off with
  | true =>
    simp only [reduceIte, Run.placing_bind, Run.placing_lift, Run.placing_trial, Run.placing_pure]
  | false =>
    simp only [Bool.false_eq_true, reduceIte, Run.lift_ok_bind]
    rw [Run.placing_bind, Run.placing_lift]
    refine Run.bind_congr fun asReceived => ?_
    split
    · exact runUnread_placing rerouted.same d c asReceived
    · split
      · simp only [Run.placing_bind, Run.placing_pure,
          ← runBound_placing rerouted.same rerouted.clock subject d c]
      · rfl

end DateRule

/-- A rule whose failures go to another collection runs as it did, with its entries there. -/
theorem RuleKind.runOn_placing (rerouted : rule.Rerouted other subject context later d c)
    (kind : RuleKind) :
    kind.runOn later other subject = (kind.runOn context rule subject).placing c := by
  unfold runOn
  rw [Run.placing_bind, Run.placing_lift, rerouted.same.field]
  refine Run.bind_congr fun value => ?_
  cases kind with
  | mustBe => exact MustBe.run_placing rerouted value
  | date => exact DateRule.run_placing rerouted value

theorem Run.yields_placing {r : Run α} {filed : List (Collection × Entry)} {a : α}
    (yields : r.Yields filed a) (c : Collection) :
    (r.placing c).Yields (c.holding filed) a :=
  ⟨congrArg c.holding yields.1, yields.2⟩

end RecordRules
