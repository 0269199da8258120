import RecordRules.Proofs.Engine.Account
import RecordRules.Proofs.Rule.Placing

/-!
# Engines with a rule whose entries go elsewhere

A rule whose failures go to another collection stands as it did, and the rules beside it are not
touched. So a run of the engine has just the entries of that rule in another collection
(`standings_partMoved`), and of a validation only these entries and the messages of the errors are
different (`validate_partMoved`).
-/

namespace RecordRules

variable {α β : Type}

/-! ## Runs of which a part is in another collection -/

/-- What one run shares with another one that has a part of the entries, after the early ones, in
    another collection: all but the collection of these entries. -/
structure Run.PartMoved (early part : List (Collection × Entry)) (c : Collection) (r s : Run α) :
    Prop where
  notes : s.notes = r.notes
  changes : s.changes = r.changes
  outcome : s.outcome = r.outcome
  entries : ∃ late, r.filed = early ++ part ++ late ∧ s.filed = early ++ c.holding part ++ late

namespace Run.PartMoved

variable {early part : List (Collection × Entry)} {c : Collection}

theorem whole (r : Run α) (c : Collection) : PartMoved [] r.filed c r (r.placing c) :=
  ⟨rfl, rfl, rfl, [], by simp, by simp [placing]⟩

theorem before_others {r s : Run α} (moved : PartMoved early part c r s) (next : α → Run β) :
    PartMoved early part c (r >>= next) (s >>= next) := by
  obtain ⟨notes, changes, outcome, late, was, now⟩ := moved
  cases came : r.outcome with
  | ok a =>
    rw [bind_of_ok came, bind_of_ok (outcome.trans came)]
    exact ⟨by simp [notes], by simp [changes], rfl, late ++ (next a).filed, by simp [was],
      by simp [now]⟩
  | error e =>
    rw [bind_of_error came, bind_of_error (outcome.trans came)]
    exact ⟨notes, changes, rfl, late, was, now⟩

theorem after_others {r : Run α} {a : α} (came : r.outcome = .ok a) {next others : α → Run β}
    (moved : PartMoved early part c (next a) (others a)) :
    PartMoved (r.filed ++ early) part c (r >>= next) (r >>= others) := by
  obtain ⟨notes, changes, outcome, late, was, now⟩ := moved
  rw [bind_of_ok came, bind_of_ok came]
  exact ⟨by simp [notes], by simp [changes], outcome, late, by simp [was], by simp [now]⟩

/-- Where the part is in that collection anyway, nothing is different. -/
theorem same {r s : Run α} (moved : PartMoved early part c r s) (there : c.holding part = part) :
    s = r := by
  obtain ⟨filed, written, changed, came⟩ := s
  obtain ⟨filedToo, writtenToo, changedToo, cameToo⟩ := r
  obtain ⟨notes, changes, outcome, late, was, now⟩ := moved
  rw [there, ← was] at now
  simp only at now notes changes outcome
  rw [now, notes, changes, outcome]

end Run.PartMoved

/-! ## Rules -/

namespace Engine

variable {context : Context} {subject : Subject} {i other : Installed} {c : Collection}

/-- A rule with its failures in another collection stands as it did. -/
theorem stand_placing {d : Collection} (kind : other.kind = i.kind) (severity : other.severity = i.severity)
    (rerouted : i.rule.Rerouted other.rule subject context context d c) :
    stand context subject other = (stand context subject i).placing c := by
  unfold stand
  rw [rerouted.same.name, kind, severity, RuleKind.runOn_placing rerouted, Run.placing_bind,
    Run.placing_lift]
  refine Run.bind_congr fun off => ?_
  cases off with
  | true => rfl
  | false =>
    simp only [Bool.false_eq_true, reduceIte]
    rw [Run.placing_bind]
    refine Run.bind_congr fun verdict => ?_
    cases verdict with
    | true => rfl
    | false =>
      simp only [Bool.false_eq_true, reduceIte]
      split <;> rfl

/-- Whatever a rule files is in its collection, also where it stops before it comes to a verdict. -/
theorem filed_by_stand
    (aimed : i.rule.destination context.registry subject = .ok (.collection c)) :
    ∀ entry ∈ (stand context subject i).filed, entry.1 = c := by
  have stays : i.rule.Moved subject context context c c := ⟨rfl, rfl, aimed, aimed⟩
  intro entry member
  rw [stand_placing rfl rfl stays.rerouted] at member
  obtain ⟨_, _, rfl⟩ := List.mem_map.mp member
  rfl

/-- A rule that runs as another one does, but for the collection, leaves the rules beside it as they
    are. If it is not reached, nothing is different. -/
theorem standings_partMoved (name : other.name = i.name)
    (moved : ∀ subject, stand context subject other = (stand context subject i).placing c)
    (subject : Subject) (before after : List Installed) :
    (∃ e, (standings context subject before).outcome = .error e ∧
      standings context subject (before ++ other :: after)
        = standings context subject (before ++ i :: after)) ∨
    (standings context subject (before ++ i :: after)).PartMoved
      (standings context subject before).filed
      (stand context (subject.changed (standings context subject before).changes) i).filed c
      (standings context subject (before ++ other :: after)) := by
  induction before generalizing subject with
  | nil =>
    right
    simp only [List.nil_append, standings, name, moved]
    exact (Run.PartMoved.whole _ c).before_others _
  | cons first rest ih =>
    simp only [List.cons_append, standings]
    cases came : (stand context subject first).outcome with
    | error e =>
      left
      rw [Run.bind_of_error came, Run.bind_of_error came, Run.bind_of_error came]
      exact ⟨e, rfl, rfl⟩
    | ok standing =>
      -- The rules after the first one run on what it has left.
      rcases ih (left context subject first) with ⟨e, stops, same⟩ | moved
      · left
        unfold Engine.left at stops same
        rw [same, Run.bind_of_ok came, Run.bind_of_error stops]
        exact ⟨e, rfl, rfl⟩
      · right
        unfold Engine.left at moved
        have begun := Run.bind_of_ok came fun standing =>
          standings context (subject.changed (stand context subject first).changes) rest >>=
            fun others => pure ((first.name, standing) :: others)
        have early := congrArg Run.filed begun
        have changes := congrArg Run.changes begun
        dsimp only at early changes
        rw [early, changes, Run.filed_bind_pure, Run.changes_bind_of_nil _ fun _ => rfl,
          Subject.changed_append]
        exact .after_others came (moved.before_others _)

end Engine

/-! ## Outcomes with other messages -/

theorem Checked.both_map {γ : Type} (a : Checked α) (b : Checked β) (f : β → γ) :
    both a (b.map f) = (both a b).map fun (x, y) => (x, f y) := by
  cases a <;> cases b <;> rfl

theorem Checked.orFault_map (model : String) (a : Checked α) (f : α → β) :
    orFault model (a.map f) = (orFault model a).map f := by
  cases a <;> rfl

/-- The messages are the only part of an outcome that depends on what has been filed. -/
theorem Outcome.ofStandings_of_subject {record other : Record} (same : other.subject = record.subject)
    (standings : List (Value × Engine.Standing)) :
    ofStandings other standings = (ofStandings record standings).map fun outcome =>
      { outcome with messages := fullMessages other.errors } := by
  have messages (texts : List String) : Checked.within (.name "messages")
      (asTexts (.list (texts.map .text))) = .ok texts := by
    rw [asTexts_texts_iff.mpr rfl]
    rfl
  have replaced : (.ok (fullMessages other.errors) : Checked (List String))
      = Except.map (fun _ => fullMessages other.errors) (.ok (fullMessages record.errors)) := rfl
  unfold ofStandings ofFields
  simp only [Entries.required, Entries.optional, Entries.get?, List.find?_cons, Value.same_texts,
    String.reduceBEq, Option.map_some, messages, same]
  rw [replaced]
  simp only [Checked.both_map]
  generalize Checked.both _ _ = checked
  cases checked <;> rfl

/-- What a validation shares with another one that has a part of the entries, after the early ones,
    in another collection: all but these entries and the messages of the errors. -/
structure Validation.PartMoved (record : Record) (early part : List (Collection × Entry))
    (c : Collection) (was now : Validation) : Prop where
  notes : now.notes = was.notes
  subject : now.record.subject = was.record.subject
  status : now.record.status = was.record.status
  outcome : now.outcome = was.outcome.map fun outcome =>
    { outcome with messages := fullMessages now.record.errors }
  entries : ∃ late : List (Collection × Entry), ∀ k : Collection,
    was.record.entries k = record.entries k ++ k.among (early ++ part ++ late) ∧
      now.record.entries k = record.entries k ++ k.among (early ++ c.holding part ++ late)

namespace Engine

variable {context : Context} {record : Record} {engine later : Engine}
  {early part : List (Collection × Entry)} {c : Collection}

/-- The record once all rules have run, with the status that their standings give it. -/
def concluded (record : Record) (run : Run (List (Value × Standing)))
    (stood : List (Value × Standing)) : Record :=
  { record.after run with status := if (named stood .failed).isEmpty then .valid else .invalid }

theorem validate_of_stood {run : Run (List (Value × Standing))} {stood : List (Value × Standing)}
    (isRun : standings context record.subject engine.rules = run) (came : run.outcome = .ok stood) :
    engine.validate context record = ⟨concluded record run stood, run.notes,
      Checked.orFault "ValidationResult"
        (Outcome.ofStandings (concluded record run stood) stood)⟩ := by
  simp only [validate, isRun, came]
  rfl

theorem validate_of_stopped {run : Run (List (Value × Standing))} {e : Fault}
    (isRun : standings context record.subject engine.rules = run) (came : run.outcome = .error e) :
    engine.validate context record = ⟨record.after run, run.notes, .error e⟩ := by
  simp only [validate, isRun, came]

theorem subject_concluded (record : Record) (run : Run (List (Value × Standing)))
    (stood : List (Value × Standing)) :
    (concluded record run stood).subject = record.subject.changed run.changes :=
  record.subject_after run

theorem entries_concluded (record : Record) (run : Run (List (Value × Standing)))
    (stood : List (Value × Standing)) (k : Collection) :
    (concluded record run stood).entries k = record.entries k ++ k.among run.filed := by
  rw [← Record.entries_after]
  cases k <;> rfl

theorem validate_of_same_standings
    (same : standings context record.subject later.rules
      = standings context record.subject engine.rules) :
    later.validate context record = engine.validate context record := by
  simp only [validate, same]

/-- A validation in which a part of the entries goes elsewhere shares all else with what it was, but
    for the messages. -/
theorem validate_partMoved
    (moved : (standings context record.subject engine.rules).PartMoved early part c
      (standings context record.subject later.rules)) :
    Validation.PartMoved record early part c (engine.validate context record)
      (later.validate context record) := by
  obtain ⟨notes, changes, outcome, late, was, now⟩ := moved
  cases came : (standings context record.subject engine.rules).outcome with
  | error e =>
    rw [validate_of_stopped rfl came, validate_of_stopped rfl (outcome.trans came)]
    refine ⟨notes, ?_, ?_, rfl, late, fun k => ?_⟩
    · rw [Record.subject_after, Record.subject_after, changes]
    · rw [Record.after, Record.after, Record.status_addAll, Record.status_addAll]
    · rw [← was, ← now]
      exact ⟨Record.entries_after .., Record.entries_after ..⟩
  | ok stood =>
    rw [validate_of_stood rfl came, validate_of_stood rfl (outcome.trans came)]
    refine ⟨notes, ?_, rfl, ?_, late, fun k => ?_⟩
    · rw [subject_concluded, subject_concluded, changes]
    · have same : (concluded record (standings context record.subject later.rules) stood).subject
          = (concluded record (standings context record.subject engine.rules) stood).subject := by
        rw [subject_concluded, subject_concluded, changes]
      dsimp only
      rw [Outcome.ofStandings_of_subject same, Checked.orFault_map]
    · rw [← was, ← now]
      exact ⟨entries_concluded .., entries_concluded ..⟩

end Engine

end RecordRules
