import RecordRules.Rule.Run

/-!
# Records with entries added

Entries that are filed stand after those that a record had, each in its own collection and in the
order in which they were filed (`entries_addAll`). Nothing else of the record changes
(`subject_addAll`, `status_addAll`), and a run leaves a record with the values that it has changed and
the entries that it has filed (`subject_after`, `entries_after`).
-/

namespace RecordRules

/-- The entries for a collection among those filed. -/
def Collection.among (c : Collection) (filed : List (Collection × Entry)) : List Entry :=
  filed.filterMap fun (d, e) => if d = c then some e else none

theorem Collection.among_append (c : Collection) (filed others : List (Collection × Entry)) :
    c.among (filed ++ others) = c.among filed ++ c.among others :=
  List.filterMap_append

namespace Record

theorem entries_addAll (record : Record) (filed : List (Collection × Entry)) (c : Collection) :
    (record.addAll filed).entries c = record.entries c ++ c.among filed := by
  unfold addAll
  induction filed generalizing record with
  | nil => simp [Collection.among]
  | cons entry rest ih =>
    obtain ⟨d, e⟩ := entry
    rw [List.foldl_cons, ih]
    cases d <;> cases c <;> simp [add, entries, Collection.among]

theorem subject_addAll (record : Record) (filed : List (Collection × Entry)) :
    (record.addAll filed).subject = record.subject := by
  unfold addAll
  induction filed generalizing record with
  | nil => rfl
  | cons entry rest ih =>
    rw [List.foldl_cons, ih]
    obtain ⟨d, e⟩ := entry
    cases d <;> rfl

theorem status_addAll (record : Record) (filed : List (Collection × Entry)) :
    (record.addAll filed).status = record.status := by
  unfold addAll
  induction filed generalizing record with
  | nil => rfl
  | cons entry rest ih =>
    rw [List.foldl_cons, ih]
    obtain ⟨d, e⟩ := entry
    cases d <;> rfl

variable {α : Type} (record : Record) (run : Run α)

theorem subject_after : (record.after run).subject = record.subject.changed run.changes :=
  subject_addAll _ _

/-- A run that changes nothing leaves a record with the entries that it has filed. -/
theorem after_of_still (still : run.changes = []) : record.after run = record.addAll run.filed := by
  rw [Record.after, still]
  rfl

theorem entries_after (c : Collection) :
    (record.after run).entries c = record.entries c ++ c.among run.filed := by
  have kept : { record with subject := record.subject.changed run.changes }.entries c
      = record.entries c := by
    cases c <;> rfl
  rw [← kept]
  exact entries_addAll _ run.filed c

end Record

end RecordRules
