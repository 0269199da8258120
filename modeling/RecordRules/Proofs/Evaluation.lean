import Mathlib.Data.List.Forall2
import RecordRules.Rule.Run

/-!
# Evaluations step by step

An evaluation that comes to a value has come to one in each of its steps. `outcome_bind_iff` says so
of trials and `yields_bind_iff` of runs, with the entries that each step files. A run is
cautious if it files nothing before its last step that may stop (`cautious_lift_bind`).
-/

namespace RecordRules

variable {ε ε' α β : Type}

/-! ## Outcomes -/

theorem ok_bind_iff {outcome : Except ε α} {next : α → Except ε β} {b : β} :
    (outcome >>= next) = .ok b ↔ ∃ a, outcome = .ok a ∧ next a = .ok b := by
  cases outcome <;> simp [Bind.bind, Except.bind]

theorem error_bind_iff {outcome : Except ε α} {next : α → Except ε β} {e : ε} :
    (outcome >>= next) = .error e ↔
      outcome = .error e ∨ ∃ a, outcome = .ok a ∧ next a = .error e := by
  cases outcome <;> simp [Bind.bind, Except.bind]

theorem ok_pure_iff {a b : α} : (pure a : Except ε α) = .ok b ↔ a = b := by
  simp [Pure.pure, Except.pure]

theorem ok_map_iff {outcome : Except ε α} {f : α → β} {b : β} :
    outcome.map f = .ok b ↔ ∃ a, outcome = .ok a ∧ f a = b := by
  cases outcome <;> simp [Except.map]

theorem ok_mapError_iff {outcome : Except ε α} {f : ε → ε'} {a : α} :
    outcome.mapError f = .ok a ↔ outcome = .ok a := by
  cases outcome <;> simp [Except.mapError]

theorem error_mapError_iff {outcome : Except ε α} {f : ε → ε'} {e : ε'} :
    outcome.mapError f = .error e ↔ ∃ e', outcome = .error e' ∧ f e' = e := by
  cases outcome <;> simp [Except.mapError]

/-- A step made on each member of a list comes to a list just when it comes to each member of it. -/
theorem ok_mapM_iff {f : α → Except ε β} {xs : List α} {ys : List β} :
    xs.mapM f = .ok ys ↔ List.Forall₂ (fun x y => f x = .ok y) xs ys := by
  induction xs generalizing ys with
  | nil => cases ys <;> simp [Pure.pure, Except.pure]
  | cons x xs ih =>
    simp only [List.mapM_cons, ok_bind_iff, ok_pure_iff, List.forall₂_cons_left_iff, ih]
    constructor
    · rintro ⟨y, first, rest, others, rfl⟩
      exact ⟨y, rest, first, others, rfl⟩
    · rintro ⟨y, rest, first, others, rfl⟩
      exact ⟨y, first, rest, others, rfl⟩

/-- A step made on each member of a list stops where it stops on a member of it. -/
theorem exists_of_mapM_error {f : α → Except ε β} {xs : List α} {e : ε}
    (stopped : xs.mapM f = .error e) : ∃ x ∈ xs, f x = .error e := by
  induction xs with
  | nil => cases stopped
  | cons x rest ih =>
    rw [List.mapM_cons] at stopped
    cases first : f x with
    | error e' =>
      rw [first] at stopped
      obtain rfl : e' = e := Except.error.inj stopped
      exact ⟨x, List.mem_cons_self, first⟩
    | ok y =>
      cases others : rest.mapM f with
      | error e' =>
        rw [first, others] at stopped
        obtain rfl : e' = e := Except.error.inj stopped
        obtain ⟨x', member, stops⟩ := ih others
        exact ⟨x', List.mem_cons_of_mem x member, stops⟩
      | ok ys =>
        rw [first, others] at stopped
        cases stopped

theorem exists_of_mem_left {R : α → β → Prop} {xs : List α} {ys : List β}
    (related : List.Forall₂ R xs ys) : ∀ x ∈ xs, ∃ y ∈ ys, R x y := by
  induction related with
  | nil => simp
  | cons first others ih =>
    intro x member
    rcases List.mem_cons.mp member with rfl | later
    · exact ⟨_, List.mem_cons_self, first⟩
    · obtain ⟨y, there, holds⟩ := ih x later
      exact ⟨y, List.mem_cons_of_mem _ there, holds⟩

theorem exists_forall₂ {R : α → β → Prop} {xs : List α} (each : ∀ x ∈ xs, ∃ y, R x y) :
    ∃ ys, List.Forall₂ R xs ys := by
  induction xs with
  | nil => exact ⟨[], .nil⟩
  | cons x rest ih =>
    obtain ⟨y, first⟩ := each x List.mem_cons_self
    obtain ⟨ys, others⟩ := ih fun z member => each z (List.mem_cons_of_mem x member)
    exact ⟨y :: ys, .cons first others⟩

/-- Relations that are the same on the members of a list relate it to the same lists. -/
theorem forall₂_congr_of_mem {R S : α → β → Prop} {xs : List α} {ys : List β}
    (same : ∀ x ∈ xs, ∀ y, R x y ↔ S x y) : List.Forall₂ R xs ys ↔ List.Forall₂ S xs ys := by
  induction xs generalizing ys with
  | nil => simp
  | cons x rest ih =>
    have others (zs : List β) : List.Forall₂ R rest zs ↔ List.Forall₂ S rest zs :=
      ih fun z member => same z (List.mem_cons_of_mem x member)
    simp only [List.forall₂_cons_left_iff, same x List.mem_cons_self, others]

namespace Trial

theorem outcome_lift (outcome : Except Fault α) : (liftM outcome : Trial α).outcome = outcome := rfl

theorem lift_ok_bind (a : α) (next : α → Trial β) :
    ((liftM (Except.ok a : Except Fault α) : Trial α) >>= next) = next a := rfl

theorem outcome_bind_iff {t : Trial α} {next : α → Trial β} {b : β} :
    (t >>= next).outcome = .ok b ↔ ∃ a, t.outcome = .ok a ∧ (next a).outcome = .ok b := by
  rw [outcome_bind, ok_bind_iff]

end Trial

/-! ## Runs -/

namespace Run

theorem bind_of_ok {r : Run α} {a : α} (came : r.outcome = .ok a) (next : α → Run β) :
    r >>= next
      = ⟨r.filed ++ (next a).filed, r.notes ++ (next a).notes, r.changes ++ (next a).changes,
        (next a).outcome⟩ := by
  show bind r next = _
  unfold bind
  rw [came]

theorem bind_of_error {r : Run α} {e : Fault} (came : r.outcome = .error e) (next : α → Run β) :
    r >>= next = ⟨r.filed, r.notes, r.changes, .error e⟩ := by
  show bind r next = _
  unfold bind
  rw [came]

theorem lift_ok_bind (a : α) (next : α → Run β) :
    ((liftM (Except.ok a : Except Fault α) : Run α) >>= next) = next a := rfl

theorem filed_bind_pure (r : Run α) (f : α → β) :
    (r >>= fun a => Pure.pure (f a)).filed = r.filed := by
  cases came : r.outcome with
  | ok a =>
    rw [bind_of_ok came]
    exact List.append_nil _
  | error e => rw [bind_of_error came]

/-- What is changed in two steps, of which the second one changes nothing. -/
theorem changes_bind_of_nil (r : Run α) {next : α → Run β} (none : ∀ a, (next a).changes = []) :
    (r >>= next).changes = r.changes := by
  cases came : r.outcome with
  | ok a =>
    rw [bind_of_ok came]
    dsimp only
    rw [none, List.append_nil]
  | error e => rw [bind_of_error came]

/-- A run that files some entries and comes to a value. -/
def Yields (r : Run α) (filed : List (Collection × Entry)) (a : α) : Prop :=
  r.filed = filed ∧ r.outcome = .ok a

theorem yields_of_ok {r : Run α} {a : α} (returned : r.outcome = .ok a) : r.Yields r.filed a :=
  ⟨rfl, returned⟩

theorem yields_pure_iff {filed : List (Collection × Entry)} {a b : α} :
    (Pure.pure a : Run α).Yields filed b ↔ filed = [] ∧ a = b := by
  show ([] = filed ∧ Except.ok a = .ok b) ↔ _
  simp [eq_comm]

theorem yields_bind_iff {r : Run α} {next : α → Run β} {filed : List (Collection × Entry)} {b : β} :
    (r >>= next).Yields filed b ↔
      ∃ a first others, r.Yields first a ∧ (next a).Yields others b ∧ filed = first ++ others := by
  show (bind r next).Yields filed b ↔ _
  unfold bind Yields
  cases came : r.outcome with
  | error e => simp
  | ok a => simp [eq_comm, and_comm]

/-- A step that only reads files nothing. -/
theorem yields_lift_bind_iff {outcome : Except Fault α} {next : α → Run β}
    {filed : List (Collection × Entry)} {b : β} :
    ((liftM outcome : Run α) >>= next).Yields filed b ↔
      ∃ a, outcome = .ok a ∧ (next a).Yields filed b := by
  show (bind ⟨[], [], [], outcome⟩ next).Yields filed b ↔ _
  cases outcome <;> simp [bind, Yields]

/-- A step that only writes notes files nothing. -/
theorem yields_trial_bind_iff {t : Trial α} {next : α → Run β}
    {filed : List (Collection × Entry)} {b : β} :
    ((liftM t : Run α) >>= next).Yields filed b ↔
      ∃ a, t.outcome = .ok a ∧ (next a).Yields filed b := by
  show (bind ⟨[], t.notes, t.changes, t.outcome⟩ next).Yields filed b ↔ _
  cases came : t.outcome <;> simp [bind, Yields]

theorem yields_file_bind_iff {entry : Collection × Entry} {next : Unit → Run β}
    {filed : List (Collection × Entry)} {b : β} :
    (file entry >>= next).Yields filed b ↔
      ∃ others, (next ()).Yields others b ∧ filed = entry :: others := by
  show (bind (file entry) next).Yields filed b ↔ _
  simp [bind, file, Yields, eq_comm, and_comm]

theorem not_yields_stop {e : Fault} {filed : List (Collection × Entry)} {a : α} :
    ¬(stop e : Run α).Yields filed a := by
  simp [stop, Yields]

/-- A run that files some entries and then stops with a fault. -/
def StopsWith (r : Run α) (filed : List (Collection × Entry)) (e : Fault) : Prop :=
  r.filed = filed ∧ r.outcome = .error e

theorem stopsWith_bind_iff {r : Run α} {next : α → Run β} {filed : List (Collection × Entry)}
    {e : Fault} :
    (r >>= next).StopsWith filed e ↔ r.StopsWith filed e ∨ ∃ a first others,
      r.Yields first a ∧ (next a).StopsWith others e ∧ filed = first ++ others := by
  show (bind r next).StopsWith filed e ↔ _
  unfold bind Yields StopsWith
  cases came : r.outcome with
  | error e => simp
  | ok a => simp [eq_comm, and_comm]

theorem not_stopsWith_pure {a : α} {filed : List (Collection × Entry)} {e : Fault} :
    ¬(Pure.pure a : Run α).StopsWith filed e := by
  rintro ⟨_, stopped⟩
  cases stopped

/-- A run that has filed nothing wherever it stops. -/
def Cautious (r : Run α) : Prop := ∀ e, r.outcome = .error e → r.filed = []

theorem cautious_of_ok {r : Run α} {a : α} (returns : r.outcome = .ok a) : r.Cautious := by
  intro e stopped
  cases returns.symm.trans stopped

theorem cautious_pure (a : α) : (Pure.pure a : Run α).Cautious := cautious_of_ok rfl

theorem cautious_stop (e : Fault) : (stop e : Run α).Cautious := fun _ _ => rfl

theorem cautious_lift_bind {outcome : Except Fault α} {next : α → Run β}
    (later : ∀ a, outcome = .ok a → (next a).Cautious) :
    ((liftM outcome : Run α) >>= next).Cautious := by
  cases outcome with
  | error e => exact fun _ _ => rfl
  | ok a => exact later a rfl

theorem cautious_trial_bind {t : Trial α} {next : α → Run β}
    (later : ∀ a, t.outcome = .ok a → (next a).Cautious) :
    ((liftM t : Run α) >>= next).Cautious := by
  intro e stopped
  have bound : ((liftM t : Run α) >>= next) = bind ⟨[], t.notes, t.changes, t.outcome⟩ next := rfl
  rw [bound] at stopped ⊢
  cases came : t.outcome with
  | error e => simp [bind]
  | ok a =>
    simp only [bind, came] at stopped ⊢
    exact later a came e stopped

end Run

end RecordRules
