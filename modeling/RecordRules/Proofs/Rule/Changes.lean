import RecordRules.Proofs.Evaluation
import RecordRules.Proofs.Rule.Notes
import RecordRules.Proofs.Value.Lookup
import RecordRules.Proofs.Value.Question

/-!
# What rules change

The conditions of a rule are held one after another, and each sees what those before it have left
(`Condition.reached`). What a rule changes is what the first of its conditions leave, up to one that does
not hold or stops (`Rule.exists_held_of_byConditions`). A rule is gentle if its conditions ask no question
that changes a value; such a rule leaves a record with the values that it had (`Rule.Gentle.changed_eq`).
-/

namespace RecordRules

/-! ## Values that are left -/

theorem Payload.get?_replace_other (payload : Payload) {name other : Value} (left : Value)
    (differ : other ≠ name) : (payload.replace name left).get? other = payload.get? other := by
  unfold replace
  split
  next n =>
    cases other with
    | text m =>
      have apart : m ≠ n := fun same => differ (congrArg Value.text same)
      exact Named.lookup_replace_other payload n left apart
    | _ => rfl
  · rfl

namespace Subject

theorem changed_append (s : Subject) (changes others : Changes) :
    s.changed (changes ++ others) = (s.changed changes).changed others :=
  List.foldl_append

/-- What identifies a subject is not changed. -/
theorem id_changed (s : Subject) (changes : Changes) : (s.changed changes).id = s.id := by
  have id_leave (s : Subject) (name left : Value) : (s.leave name left).id = s.id := by
    unfold leave
    cases s.processed <;> rfl
  unfold changed
  induction changes generalizing s with
  | nil => rfl
  | cons change rest ih => rw [List.foldl_cons, ih, id_leave]

theorem payload_leave (s : Subject) (name left : Value) :
    (s.leave name left).payload = s.payload.replace name left := by
  unfold leave payload
  cases s.processed <;> rfl

theorem read_text (s : Subject) (name : String) :
    s.read (.text name) = .ok ((s.payload.lookup name).getD .null) := rfl

/-- What has a value goes by a text. -/
theorem exists_text_of_read {s : Subject} {name v : Value} (read : s.read name = .ok v)
    (there : v ≠ .null) : ∃ n, name = .text n := by
  obtain ⟨key, isKey, found⟩ := ok_bind_iff.mp read
  obtain rfl := Value.asKey_ok isKey
  obtain rfl := ok_pure_iff.mp found
  cases key with
  | text n => exact ⟨n, rfl⟩
  | _ => exact absurd rfl there

theorem leave_of_no_text {name : Value} (noText : ∀ n, name ≠ .text n) (s : Subject)
    (left : Value) : s.leave name left = s := by
  have kept (p : Payload) : p.replace name left = p := by
    unfold Payload.replace
    split
    next n => exact absurd rfl (noText n)
    · rfl
  obtain ⟨id, source, batch, raw, processed⟩ := s
  cases processed with
  | none => simp only [leave, kept]
  | some payload => simp only [leave, kept]

/-- A value that is left as it was found changes nothing. -/
theorem leave_of_read {s : Subject} {name v : Value} (read : s.read name = .ok v) :
    s.leave name v = s := by
  by_cases isText : ∃ n, name = .text n
  · obtain ⟨n, rfl⟩ := isText
    have kept : ∀ p : Payload, (p.lookup n).getD .null = v → p.replace (.text n) v = p := by
      intro p found
      refine Named.replace_self fun b there => ?_
      rwa [there] at found
    have found := Except.ok.inj (read_text s n ▸ read)
    obtain ⟨id, source, batch, raw, processed⟩ := s
    cases processed with
    | none => simp only [leave, kept raw found]
    | some payload => simp only [leave, kept payload found]
  · exact leave_of_no_text (fun n same => isText ⟨n, same⟩) s v

/-- A value that is left is read, where there was one. -/
theorem read_leave_self {s : Subject} {name v : Value} (left : Value)
    (read : s.read name = .ok v) (there : v ≠ .null) :
    (s.leave name left).read name = .ok left := by
  obtain ⟨n, rfl⟩ := exists_text_of_read read there
  rw [read_text] at read ⊢
  rw [payload_leave, Payload.replace, Named.lookup_replace]
  cases found : s.payload.lookup n with
  | none =>
    rw [found] at read
    exact absurd (Except.ok.inj read).symm there
  | some w => rfl

theorem read_leave_other (s : Subject) {name other : Value} (left : Value)
    (differ : other ≠ name) : (s.leave name left).read other = s.read other := by
  unfold read
  cases isKey : other.asKey with
  | error e => rfl
  | ok key =>
    obtain rfl := Value.asKey_ok isKey
    show Except.ok _ = Except.ok _
    rw [payload_leave, Payload.get?_replace_other s.payload left differ]

/-- Two subjects with the same value of an attribute, of which the same is left, are read alike where
    they were. -/
theorem read_leave_congr {s t : Subject} {name current left other : Value}
    (read : s.read name = .ok current) (readToo : t.read name = .ok current)
    (nothing : current = .null → left = .null) (alike : s.read other = t.read other) :
    (s.leave name left).read other = (t.leave name left).read other := by
  by_cases there : current = .null
  · -- An attribute that is not there is none whose value is nothing, but is read alike.
    obtain rfl : left = current := (nothing there).trans there.symm
    rw [leave_of_read read, leave_of_read readToo, alike]
  · by_cases same : other = name
    · subst same
      rw [read_leave_self left read there, read_leave_self left readToo there]
    · rw [read_leave_other s left same, read_leave_other t left same, alike]

end Subject

/-! ## Conditions one after another -/

namespace Condition

/-- What a condition on an attribute leaves of a subject. -/
def after (subject : Subject) (condition : Value × Value) : Subject :=
  match subject.read condition.1 with
  | .ok current => subject.leave condition.1 (left condition.2 current)
  | .error _ => subject

/-- What conditions on attributes, held one after another, leave of a subject. -/
def reached (subject : Subject) (conditions : Entries) : Subject := conditions.foldl after subject

theorem left_null (condition : Value) : left condition .null = .null := by
  cases condition with
  | method question => exact Value.left_ask_null question
  | _ => rfl

theorem after_of_read {subject : Subject} {name condition current : Value}
    (read : subject.read name = .ok current) :
    after subject (name, condition) = subject.leave name (left condition current) := by
  simp only [after, read]

theorem after_of_error {subject : Subject} {name condition : Value} {e : Fault}
    (read : subject.read name = .error e) : after subject (name, condition) = subject := by
  simp only [after, read]

open Trial in
/-- A condition leaves something of the value that it is held against; the others are held after it
    if it holds. -/
theorem changes_cons {subject : Subject} {name current : Value}
    (read : subject.read name = .ok current) (field condition : Value) (rest : Entries) :
    let left := left condition current
    let others := (clauses (subject.leave name left) field rest).changes
    ∃ later, (clauses subject field ((name, condition) :: rest)).changes = (name, left) :: later ∧
      (later = [] ∨ later = others) := by
  intro left others
  unfold clauses
  rw [read, lift_ok_bind]
  refine ⟨_, rfl, ?_⟩
  -- What is done after the value is left changes nothing before the other conditions.
  suffices writes : Writes _ fun later => later = [] ∨ later = others from writes.changes
  refine writes_bind (.inl rfl) (writes_lift _ rfl) fun held => ?_
  split
  · refine writes_bind (.inl rfl) (writes_lift _ rfl) fun text => ?_
    have held : (clauses (subject.leave name left) field rest).Writes
        fun later => later = [] ∨ later = others := ⟨quiet_clauses _ _ _, .inr rfl⟩
    exact writes_bind_still held fun _ => writes_pure _ rfl
  · refine writes_bind (.inl rfl) (writes_lift _ rfl) fun _ => ?_
    refine writes_bind (.inl rfl) (writes_lift _ rfl) fun _ => ?_
    exact writes_bind (.inl rfl) (writes_debug _ _) fun _ => writes_pure _ (.inl rfl)

/-- What some conditions change is what they come to change before they end or one does not hold. -/
theorem changed_clauses (subject : Subject) (field : Value) (conditions : Entries) :
    ∃ held, held <+: conditions ∧
      subject.changed (clauses subject field conditions).changes = reached subject held := by
  induction conditions generalizing subject with
  | nil => exact ⟨[], List.nil_prefix, rfl⟩
  | cons entry rest ih =>
    obtain ⟨name, condition⟩ := entry
    cases read : subject.read name with
    | error e =>
      refine ⟨[], List.nil_prefix, ?_⟩
      unfold clauses
      rw [read]
      rfl
    | ok current =>
      have first : ∀ held, reached subject ((name, condition) :: held)
          = reached (subject.leave name (left condition current)) held := by
        intro held
        rw [← after_of_read read]
        rfl
      obtain ⟨later, changes, rfl | rfl⟩ := changes_cons read field condition rest
      · refine ⟨[(name, condition)], ⟨rest, rfl⟩, ?_⟩
        rw [changes, first]
        rfl
      · obtain ⟨held, isPrefix, same⟩ := ih (subject.leave name (left condition current))
        refine ⟨(name, condition) :: held, List.cons_prefix_cons.mpr ⟨rfl, isPrefix⟩, ?_⟩
        rw [changes, first, ← same]
        rfl

/-- A condition that leaves the value it is held against leaves the subject. -/
theorem after_of_left {subject : Subject} {condition : Value × Value}
    (leaves : ∀ current, left condition.2 current = current) :
    after subject condition = subject := by
  obtain ⟨name, condition⟩ := condition
  cases read : subject.read name with
  | error e => exact after_of_error read
  | ok current => rw [after_of_read read, leaves, Subject.leave_of_read read]

theorem reached_of_left {subject : Subject} {conditions : Entries}
    (leave : ∀ condition ∈ conditions, ∀ current, left condition.2 current = current) :
    reached subject conditions = subject := by
  induction conditions with
  | nil => rfl
  | cons condition rest ih =>
    have first : after subject condition = subject :=
      after_of_left (leave condition List.mem_cons_self)
    show reached (after subject condition) rest = subject
    rw [first]
    exact ih fun other member => leave other (List.mem_cons_of_mem condition member)

/-- A collection stays one, whatever conditions are held against it and other attributes. -/
theorem exists_collection_reached {subject : Subject} {name v : Value}
    (read : subject.read name = .ok v) (collection : v.isCollection = true)
    (conditions : Entries) :
    ∃ w, (reached subject conditions).read name = .ok w ∧ w.isCollection = true := by
  induction conditions generalizing subject v with
  | nil => exact ⟨v, read, collection⟩
  | cons entry rest ih =>
    obtain ⟨other, condition⟩ := entry
    show ∃ w, (reached (after subject (other, condition)) rest).read name = .ok w ∧ _
    cases readOther : subject.read other with
    | error e =>
      rw [after_of_error readOther]
      exact ih read collection
    | ok current =>
      rw [after_of_read readOther]
      by_cases same : name = other
      · subst same
        obtain rfl := Except.ok.inj (read.symm.trans readOther)
        have there : v ≠ .null := by
          rintro rfl
          cases collection
        refine ih (Subject.read_leave_self _ read there) ?_
        unfold left
        split
        · rw [Value.isCollection_left, collection]
        · exact collection
      · exact ih ((Subject.read_leave_other subject _ same).trans read) collection

end Condition

/-! ## Rules -/

namespace Rule

/-- A rule whose conditions leave every value as it is: their questions are none that change a value,
    nor such as belong to the language. -/
def Gentle (rule : Rule) : Prop :=
  ∀ conditions name question, rule.options.option "when" = .dict conditions →
    (name, .method question) ∈ conditions →
      (∀ s, question = .text s → s.toList.head? ≠ some '_') ∧
        ∀ v : Value, (v.ask question).left = v

/-- Rules whose conditions ask other questions, by words of their own, are gentle. -/
theorem gentle_of_names {rule : Rule}
    (names : ∀ conditions name question, rule.options.option "when" = .dict conditions →
      (name, .method question) ∈ conditions →
        ∃ s, question = .text s ∧ s.toList.head? ≠ some '_' ∧ s ∉ Value.changing) :
    rule.Gentle := by
  intro conditions name question given asked
  obtain ⟨s, rfl, isWord, apart⟩ := names conditions name question given asked
  refine ⟨fun t same => ?_, (Value.leaves_all_iff s).mpr apart⟩
  obtain rfl := Value.text.inj same
  exact isWord

theorem gentle_of_no_conditions {rule : Rule} (none : rule.options.option "when" = .null) :
    rule.Gentle := by
  intro conditions name question given
  rw [none] at given
  cases given

variable {rule : Rule} {subject : Subject}

theorem Gentle.left_eq (gentle : rule.Gentle) {conditions : Entries}
    (given : rule.options.option "when" = .dict conditions) :
    ∀ condition ∈ conditions, ∀ current, Condition.left condition.2 current = current := by
  rintro ⟨name, condition⟩ asked current
  unfold Condition.left
  dsimp only
  split
  next question => exact (gentle conditions name question given asked).2 current
  · rfl

theorem Gentle.reached (gentle : rule.Gentle) {conditions held : Entries}
    (given : rule.options.option "when" = .dict conditions) (among : held ⊆ conditions) :
    Condition.reached subject held = subject :=
  Condition.reached_of_left fun condition member => gentle.left_eq given condition (among member)

/-- What a rule changes is what the first of its conditions leave, held one after another. -/
def Holds (rule : Rule) (held : Entries) : Prop :=
  held = [] ∨ ∃ conditions, rule.options.option "when" = .dict conditions ∧ held <+: conditions

theorem exists_held_of_byConditions {changes : Changes}
    (made : MustBe.ByConditions rule.options rule.field subject changes) :
    ∃ held, rule.Holds held ∧ subject.changed changes = Condition.reached subject held := by
  rcases made with rfl | ⟨conditions, given, rfl⟩
  · exact ⟨[], .inl rfl, rfl⟩
  · obtain ⟨held, isPrefix, same⟩ := Condition.changed_clauses subject rule.field conditions
    exact ⟨held, .inr ⟨conditions, given, isPrefix⟩, same⟩

/-- A rule without conditions changes nothing. -/
theorem changes_eq_nil {changes : Changes} (none : rule.options.option "when" = .null)
    (made : MustBe.ByConditions rule.options rule.field subject changes) : changes = [] := by
  rcases made with still | ⟨conditions, given, _⟩
  · exact still
  · cases none.symm.trans given

theorem Gentle.reached_of_holds (gentle : rule.Gentle) {held : Entries} (holds : rule.Holds held) :
    Condition.reached subject held = subject := by
  rcases holds with rfl | ⟨conditions, given, isPrefix⟩
  · rfl
  · exact gentle.reached given isPrefix.subset

/-- A gentle rule leaves a record with the values that it had. -/
theorem Gentle.changed_eq (gentle : rule.Gentle) {changes : Changes}
    (made : MustBe.ByConditions rule.options rule.field subject changes) :
    subject.changed changes = subject := by
  obtain ⟨held, holds, same⟩ := exists_held_of_byConditions made
  rw [same, gentle.reached_of_holds holds]

end Rule

end RecordRules
