import RecordRules.Engine.Basic

/-!
# What rules write and change

Rules write notes that serve to find mistakes, and no others, whatever they come to. They change
values by the questions that their conditions ask, and not otherwise. An evaluation writes no more than
its steps do (`writes_bind`, `writes_bind_still`), so it is enough to say for each step what it writes:
of all checks the conditions alone change something (`Check.writes_run`), and so a rule changes nothing
but by its conditions (`RuleKind.writes_runOn`). What is noted above the lowest level comes from the
engine itself (`notes_validate_quiet`).
-/

namespace RecordRules

variable {α β : Type}

/-- Notes that serve to find mistakes, and no others. -/
def Quiet (notes : List Note) : Prop := ∀ note ∈ notes, note.level = .debug

theorem quiet_nil : Quiet [] := by simp [Quiet]

theorem quiet_append {notes others : List Note} (first : Quiet notes) (later : Quiet others) :
    Quiet (notes ++ others) := by
  intro note member
  rcases List.mem_append.mp member with early | late
  · exact first note early
  · exact later note late

/-- No changes. -/
def Still (changes : Changes) : Prop := changes = []

/-- Any changes whatever. -/
def Any (_ : Changes) : Prop := True

/-! ## Trials -/

namespace Trial

/-- A trial that writes no other notes, and makes changes that are as they may be. -/
structure Writes (t : Trial α) (may : Changes → Prop) : Prop where
  quiet : Quiet t.notes
  changes : may t.changes

variable {may : Changes → Prop}

theorem writes_pure (a : α) (none : may []) : (Pure.pure a : Trial α).Writes may :=
  ⟨quiet_nil, none⟩

theorem writes_lift (outcome : Except Fault α) (none : may []) :
    (liftM outcome : Trial α).Writes may := ⟨quiet_nil, none⟩

theorem writes_throw (e : Fault) (none : may []) : (throw e : Trial α).Writes may :=
  ⟨quiet_nil, none⟩

theorem writes_debug (text : String) (extras : Named Value) : (debug text extras).Writes Still :=
  ⟨by simp [Quiet, debug], rfl⟩

/-- What is left of a value is all that leaving it changes. -/
theorem writes_leave (name left : Value) : (leave name left).Writes (· = [(name, left)]) :=
  ⟨quiet_nil, rfl⟩

/-- What two steps write, one after the other. -/
theorem writes_bind_of {early late : Changes → Prop} {t : Trial α} {next : α → Trial β}
    (stops : ∀ x, early x → may x) (goes : ∀ x y, early x → late y → may (x ++ y))
    (first : t.Writes early) (later : ∀ a, (next a).Writes late) : (t >>= next).Writes may := by
  show (bind t next).Writes may
  unfold bind
  cases t.outcome with
  | ok a =>
    exact ⟨quiet_append first.quiet (later a).quiet, goes _ _ first.changes (later a).changes⟩
  | error e => exact ⟨first.quiet, stops _ first.changes⟩

theorem writes_bind_any {early : Changes → Prop} {t : Trial α} {next : α → Trial β}
    (first : t.Writes early) (later : ∀ a, (next a).Writes Any) : (t >>= next).Writes Any :=
  writes_bind_of (fun _ _ => trivial) (fun _ _ _ _ => trivial) first later

/-- After a step that changes nothing, another one may make any changes. -/
theorem writes_bind {t : Trial α} {next : α → Trial β} (none : may []) (first : t.Writes Still)
    (later : ∀ a, (next a).Writes may) : (t >>= next).Writes may := by
  refine writes_bind_of ?_ ?_ first later
  · rintro x rfl
    exact none
  · rintro x y rfl isLater
    exact isLater

/-- A step may make any changes if those after it make none. -/
theorem writes_bind_still {t : Trial α} {next : α → Trial β} (first : t.Writes may)
    (later : ∀ a, (next a).Writes Still) : (t >>= next).Writes may := by
  refine writes_bind_of (fun _ isFirst => isFirst) ?_ first later
  rintro x y isFirst rfl
  rwa [List.append_nil]

end Trial

namespace Comparator

open Trial in
theorem writes_attempt (c : Comparator) (field value operand : Value) :
    (c.attempt field value operand).Writes Still := by
  unfold attempt
  split
  · exact writes_pure _ rfl
  · split
    · refine writes_bind rfl (writes_lift _ rfl) fun _ => ?_
      refine writes_bind rfl (writes_lift _ rfl) fun _ => ?_
      exact writes_bind rfl (writes_debug _ _) fun _ => writes_pure _ rfl
    · exact writes_throw _ rfl

open Trial in
theorem writes_satisfied (c : Comparator) (field value operand : Value) :
    (c.satisfied field value operand).Writes Still := by
  unfold satisfied
  split
  · exact writes_pure _ rfl
  · exact writes_pure _ rfl
  · refine writes_bind rfl (c.writes_attempt field value operand) fun held => ?_
    split <;> exact writes_pure _ rfl

end Comparator

open Trial in
theorem Condition.quiet_clauses (subject : Subject) (field : Value) (conditions : Entries) :
    Quiet (clauses subject field conditions).notes := by
  suffices (clauses subject field conditions).Writes Any from this.quiet
  induction conditions generalizing subject with
  | nil => exact writes_pure _ trivial
  | cons entry rest ih =>
    obtain ⟨name, condition⟩ := entry
    unfold clauses
    refine writes_bind trivial (writes_lift _ rfl) fun current => ?_
    refine writes_bind_any (writes_leave name _) fun _ => ?_
    refine writes_bind trivial (writes_lift _ rfl) fun held => ?_
    split
    · refine writes_bind trivial (writes_lift _ rfl) fun text => ?_
      exact writes_bind_still (ih _) fun _ => writes_pure _ rfl
    · refine writes_bind trivial (writes_lift _ rfl) fun _ => ?_
      refine writes_bind trivial (writes_lift _ rfl) fun _ => ?_
      exact writes_bind trivial (writes_debug _ _) fun _ => writes_pure _ trivial

namespace MustBe

/-- The changes that a rule may make: none, or those that its conditions make on a subject. -/
def ByConditions (options : Entries) (field : Value) (subject : Subject) (changes : Changes) :
    Prop :=
  changes = [] ∨ ∃ conditions, options.option "when" = .dict conditions ∧
    changes = (Condition.clauses subject field conditions).changes

theorem ByConditions.none (options : Entries) (field : Value) (subject : Subject) :
    ByConditions options field subject [] := .inl rfl

/-- Whether a check holds conditions against attributes. -/
def Check.isConditions : Check → Bool
  | .conditions _ => true
  | _ => false

open Trial in
theorem Check.writes_run (scene : Scene) {check : Check} (other : check.isConditions = false) :
    (check.run scene).Writes Still := by
  cases check with
  | blank => exact writes_pure _ rfl
  | present => exact writes_pure _ rfl
  | oneOf values =>
    rw [Check.run]
    split
    · exact writes_pure _ rfl
    · exact writes_bind rfl (writes_lift _ rfl) fun _ => writes_pure _ rfl
  | notAnyOf values =>
    rw [Check.run]
    split
    · exact writes_bind rfl (writes_lift _ rfl) fun _ => writes_pure _ rfl
    · exact writes_pure _ rfl
  | onlyFrom values =>
    rw [Check.run]
    split
    · exact writes_pure _ rfl
    · exact writes_bind rfl (writes_lift _ rfl) fun _ => writes_pure _ rfl
  | window bounds withTime =>
    exact writes_bind rfl (writes_lift _ rfl) fun _ => writes_lift _ rfl
  | comparison c operand =>
    rw [Check.run]
    refine writes_bind rfl (writes_lift _ rfl) fun resolved => ?_
    refine writes_bind rfl (c.writes_satisfied _ _ _) fun held => ?_
    split
    · exact writes_pure _ rfl
    · exact writes_bind rfl (writes_lift _ rfl) fun _ => writes_pure _ rfl
  | conditions given => cases other

variable {may : Changes → Prop}

open Trial in
/-- Checks that hold no conditions change nothing, so what a list of checks changes is up to those
    that come after. -/
theorem writes_runChecks_append (none : may []) {scene : Scene} {checks last : List Check}
    (others : ∀ check ∈ checks, check.isConditions = false)
    (later : ∀ m, (runChecks scene last m).Writes may) (m : Message) :
    (runChecks scene (checks ++ last) m).Writes may := by
  induction checks generalizing m with
  | nil => exact later m
  | cons check rest ih =>
    refine writes_bind none (Check.writes_run scene (others check List.mem_cons_self)) ?_
    intro finding
    cases finding with
    | satisfied => exact writes_pure _ none
    | unsatisfied edits => exact ih (fun c member => others c (List.mem_cons_of_mem check member)) _

open Trial in
theorem writes_when (options : Entries) (scene : Scene) (m : Message) :
    (runChecks scene (ifGiven options "when" .conditions) m).Writes
      (ByConditions options scene.field scene.subject) := by
  have none := ByConditions.none options scene.field scene.subject
  unfold ifGiven
  split
  · exact writes_pure _ none
  next given =>
    refine writes_bind_still ?_ fun finding => ?_
    · cases isWhen : options.option "when" with
      | dict conditions =>
        have held : (Condition.clauses scene.subject scene.field conditions).Writes
            (ByConditions options scene.field scene.subject) :=
          ⟨Condition.quiet_clauses _ _ _, .inr ⟨conditions, isWhen, rfl⟩⟩
        refine writes_bind_still held fun found => ?_
        split <;> exact writes_pure _ rfl
      | _ => exact writes_bind none (writes_lift _ rfl) fun _ => writes_throw _ none
    · cases finding with
      | satisfied => exact writes_pure _ rfl
      | unsatisfied edits => exact writes_pure _ rfl

/-- The conditions of a rule are its last check. -/
theorem checks_eq_append (options : Entries) :
    ∃ first, checks options = first ++ ifGiven options "when" .conditions ∧
      ∀ check ∈ first, check.isConditions = false := by
  have given : ∀ (name : String) (make : Value → Check) (check : Check),
      (∀ v, (make v).isConditions = false) → check ∈ ifGiven options name make →
        check.isConditions = false := by
    intro name make check others member
    unfold ifGiven at member
    split at member
    · cases member
    · rw [List.mem_singleton.mp member]
      exact others _
  refine ⟨_, rfl, fun check member => ?_⟩
  simp only [List.mem_append] at member
  rcases member with (((((blank | present) | oneOf) | notAnyOf) | onlyFrom) | window) | comparison
  · split at blank
    · rw [List.mem_singleton.mp blank]
      rfl
    · cases blank
  · split at present
    · rw [List.mem_singleton.mp present]
      rfl
    · cases present
  · exact given _ _ _ (fun _ => rfl) oneOf
  · exact given _ _ _ (fun _ => rfl) notAnyOf
  · exact given _ _ _ (fun _ => rfl) onlyFrom
  · rw [List.mem_singleton.mp window]
    rfl
  · obtain ⟨⟨key, operand⟩, _, made⟩ := List.mem_filterMap.mp comparison
    obtain ⟨c, _, rfl⟩ := Option.map_eq_some_iff.mp made
    rfl

open Trial in
theorem writes_judge (options : Entries) (scene : Scene) :
    (judge options scene).Writes (ByConditions options scene.field scene.subject) := by
  obtain ⟨first, isChecks, others⟩ := checks_eq_append options
  have none := ByConditions.none options scene.field scene.subject
  have ran := writes_runChecks_append none others (writes_when options scene) Message.start
  rw [← isChecks] at ran
  refine writes_bind_still ran fun left => ?_
  cases left with
  | none => exact writes_pure _ rfl
  | some m => exact writes_bind rfl (writes_lift _ rfl) fun _ => writes_pure _ rfl

end MustBe

/-! ## Runs -/

namespace Run

/-- A run that writes no other notes, and makes changes that are as they may be. -/
structure Writes (r : Run α) (may : Changes → Prop) : Prop where
  quiet : Quiet r.notes
  changes : may r.changes

variable {may : Changes → Prop}

theorem writes_pure (a : α) (none : may []) : (Pure.pure a : Run α).Writes may :=
  ⟨quiet_nil, none⟩

theorem writes_lift (outcome : Except Fault α) (none : may []) :
    (liftM outcome : Run α).Writes may := ⟨quiet_nil, none⟩

theorem writes_trial {t : Trial α} (writes : t.Writes may) : (liftM t : Run α).Writes may :=
  ⟨writes.quiet, writes.changes⟩

theorem writes_stop (e : Fault) (none : may []) : (stop e : Run α).Writes may :=
  ⟨quiet_nil, none⟩

theorem writes_file (filed : Collection × Entry) : (file filed).Writes Still := ⟨quiet_nil, rfl⟩

/-- What two steps write, one after the other. -/
theorem writes_bind_of {early late : Changes → Prop} {r : Run α} {next : α → Run β}
    (stops : ∀ x, early x → may x) (goes : ∀ x y, early x → late y → may (x ++ y))
    (first : r.Writes early) (later : ∀ a, (next a).Writes late) : (r >>= next).Writes may := by
  show (bind r next).Writes may
  unfold bind
  cases r.outcome with
  | ok a =>
    exact ⟨quiet_append first.quiet (later a).quiet, goes _ _ first.changes (later a).changes⟩
  | error e => exact ⟨first.quiet, stops _ first.changes⟩

theorem writes_bind_any {early : Changes → Prop} {r : Run α} {next : α → Run β}
    (first : r.Writes early) (later : ∀ a, (next a).Writes Any) : (r >>= next).Writes Any :=
  writes_bind_of (fun _ _ => trivial) (fun _ _ _ _ => trivial) first later

/-- After a step that changes nothing, another one may make any changes. -/
theorem writes_bind {r : Run α} {next : α → Run β} (none : may []) (first : r.Writes Still)
    (later : ∀ a, (next a).Writes may) : (r >>= next).Writes may := by
  refine writes_bind_of ?_ ?_ first later
  · rintro x rfl
    exact none
  · rintro x y rfl isLater
    exact isLater

/-- A step may make any changes if those after it make none. -/
theorem writes_bind_still {r : Run α} {next : α → Run β} (first : r.Writes may)
    (later : ∀ a, (next a).Writes Still) : (r >>= next).Writes may := by
  refine writes_bind_of (fun _ isFirst => isFirst) ?_ first later
  rintro x y isFirst rfl
  rwa [List.append_nil]

end Run

open Run in
theorem MustBe.writes_run (context : Context) (rule : Rule) (subject : Subject) (value : Value) :
    (run context rule subject value).Writes (ByConditions rule.options rule.field subject) := by
  have none := ByConditions.none rule.options rule.field subject
  unfold run
  refine writes_bind none (writes_lift _ rfl) fun off => ?_
  split
  · refine writes_bind none (writes_lift _ rfl) fun _ => ?_
    refine writes_bind none (writes_lift _ rfl) fun _ => ?_
    exact writes_bind none (writes_trial (Trial.writes_debug _ _)) fun _ => writes_pure _ none
  · split
    · exact writes_bind none (writes_lift _ rfl) fun _ => writes_stop _ none
    · refine writes_bind_still (writes_trial (writes_judge _ _)) fun judgement => ?_
      cases judgement with
      | none => exact writes_pure _ rfl
      | some message =>
        refine writes_bind rfl (writes_lift _ rfl) fun _ => ?_
        refine writes_bind rfl (writes_lift _ rfl) fun _ => ?_
        refine writes_bind rfl (writes_file _) fun _ => writes_bind rfl (writes_lift _ rfl) ?_
        refine fun _ => writes_bind rfl (writes_lift _ rfl) fun _ => ?_
        exact writes_bind rfl (writes_trial (Trial.writes_debug _ _)) fun _ => writes_pure _ rfl

namespace DateRule

open Run in
theorem writes_runBound (context : Context) (rule : Rule) (subject : Subject)
    (destination : Destination) (value asReceived : Value) (d : Direction) :
    (runBound context rule subject destination value asReceived d).Writes Still := by
  unfold runBound
  split
  · exact writes_pure _ rfl
  · refine writes_bind rfl (writes_lift _ rfl) fun evaluation => ?_
    cases evaluation with
    | none => exact writes_pure _ rfl
    | some failure =>
      refine writes_bind rfl (writes_lift _ rfl) fun _ => writes_bind rfl (writes_file _) ?_
      refine fun _ => writes_bind rfl (writes_lift _ rfl) fun _ => ?_
      exact writes_bind rfl (writes_trial (Trial.writes_debug _ _)) fun _ => writes_pure _ rfl

open Run in
theorem writes_runUnread (rule : Rule) (destination : Destination) (asReceived : Value) :
    (runUnread rule destination asReceived).Writes Still := by
  unfold runUnread
  split
  · exact writes_pure _ rfl
  · refine writes_bind rfl (writes_lift _ rfl) fun _ => writes_bind rfl (writes_lift _ rfl) ?_
    exact fun _ => writes_bind rfl (writes_file _) fun _ => writes_pure _ rfl

open Run in
theorem writes_run (context : Context) (rule : Rule) (subject : Subject) (value : Value) :
    (run context rule subject value).Writes Still := by
  unfold run
  refine writes_bind rfl (writes_lift _ rfl) fun off => ?_
  split
  · refine writes_bind rfl (writes_lift _ rfl) fun _ => writes_bind rfl (writes_lift _ rfl) ?_
    exact fun _ => writes_bind rfl (writes_trial (Trial.writes_debug _ _)) fun _ =>
      writes_pure _ rfl
  · refine writes_bind rfl (writes_lift _ rfl) fun asReceived => ?_
    refine writes_bind rfl (writes_lift _ rfl) fun _ => ?_
    split
    · exact writes_runUnread _ _ _
    · split
      · refine writes_bind rfl (writes_runBound _ _ _ _ _ _ _) fun _ => ?_
        exact writes_bind rfl (writes_runBound _ _ _ _ _ _ _) fun _ => writes_pure _ rfl
      · exact writes_pure _ rfl

end DateRule

/-- A rule changes nothing but by its conditions. -/
theorem RuleKind.writes_runOn (kind : RuleKind) (context : Context) (rule : Rule)
    (subject : Subject) : (kind.runOn context rule subject).Writes
      (MustBe.ByConditions rule.options rule.field subject) := by
  have none := MustBe.ByConditions.none rule.options rule.field subject
  refine Run.writes_bind none (Run.writes_lift _ rfl) fun value => ?_
  cases kind with
  | mustBe => exact MustBe.writes_run context rule subject value
  | date =>
    have writes := DateRule.writes_run context rule subject value
    exact ⟨writes.quiet, .inl writes.changes⟩

namespace Engine

open Run in
theorem writes_stand (context : Context) (subject : Subject) (i : Installed) :
    (stand context subject i).Writes
      (MustBe.ByConditions i.rule.options i.rule.field subject) := by
  have none := MustBe.ByConditions.none i.rule.options i.rule.field subject
  unfold stand
  refine writes_bind none (writes_lift _ rfl) fun off => ?_
  split
  · exact writes_pure _ none
  · refine writes_bind_still (i.kind.writes_runOn context i.rule subject) fun verdict => ?_
    split
    · exact writes_pure _ rfl
    · split <;> exact writes_pure _ rfl

open Run in
theorem quiet_standings (context : Context) (subject : Subject) (rules : List Installed) :
    Quiet (standings context subject rules).notes := by
  suffices (standings context subject rules).Writes Any from this.quiet
  induction rules generalizing subject with
  | nil => exact writes_pure _ trivial
  | cons i rest ih =>
    refine writes_bind_any (writes_stand context subject i) fun _ => ?_
    exact writes_bind_still (ih _) fun _ => writes_pure _ rfl

/-- An engine that runs over a record writes only what its rules write. -/
theorem notes_validate_quiet (engine : Engine) (context : Context) (record : Record) :
    Quiet (engine.validate context record).notes := by
  have quiet := quiet_standings context record.subject engine.rules
  unfold validate
  dsimp only
  split
  · exact quiet
  · exact quiet

end Engine

end RecordRules
