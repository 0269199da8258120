import RecordRules.Proofs.Declaration.Notation

/-!
# Faults of options

Reading plain data reveals what is wrong with it: it comes to a value just when nothing is, and else
stops with one of the faults that there are (`Reveals`). So it is with operands at any depth
(`reveals_operand`) and with the options of a rule (`reveals_options`). Their faults are of the
family of declarations, unless an expression does not compile (`OptionFault.family`) or the options
are no mapping.
-/

namespace RecordRules

/-! ## Outcomes that reveal what is wrong -/

/-- An outcome that reveals what is wrong: a value tells that nothing is, and a fault is one of the
    faults that there are. -/
def Reveals {α : Type} (wrong : Fault → Prop) : Except Fault α → Prop
  | .ok _ => ∀ e, ¬wrong e
  | .error e => wrong e

namespace Reveals

variable {α β : Type} {wrong : Fault → Prop} {outcome : Except Fault α}

theorem bind {next : α → Except Fault β} (stops : ∀ e, outcome = .error e → wrong e)
    (goes : ∀ a, outcome = .ok a → Reveals wrong (next a)) : Reveals wrong (outcome >>= next) := by
  cases outcome with
  | ok a => exact goes a rfl
  | error e => exact stops e rfl

theorem map (reveals : Reveals wrong outcome) (f : α → β) :
    Reveals wrong (do return f (← outcome)) := by
  cases outcome with
  | ok a => exact reveals
  | error e => exact reveals

/-- A step that is made on each member of a list reveals what is wrong with any of them. -/
theorem mapM {f : α → Except Fault β} {wrongWith : α → Fault → Prop} {xs : List α}
    (each : ∀ x ∈ xs, Reveals (wrongWith x) (f x)) :
    Reveals (fun e => ∃ x ∈ xs, wrongWith x e) (xs.mapM f) := by
  cases came : xs.mapM f with
  | ok ys =>
    rintro e ⟨x, member, isWrong⟩
    obtain ⟨y, _, first⟩ := exists_of_mem_left (ok_mapM_iff.mp came) x member
    have reveals := each x member
    rw [first] at reveals
    exact reveals e isWrong
  | error e =>
    obtain ⟨x, member, stopped⟩ := exists_of_mapM_error came
    have reveals := each x member
    rw [stopped] at reveals
    exact ⟨x, member, reveals⟩

theorem congr {other : Fault → Prop} (reveals : Reveals wrong outcome)
    (same : ∀ e, wrong e ↔ other e) : Reveals other outcome := by
  obtain rfl : wrong = other := funext fun e => propext (same e)
  exact reveals

end Reveals

theorem Sentinel.ofText?_iff {word : String} {s : Sentinel} :
    ofText? word = some s ↔ word = s.text := by
  constructor
  · intro found
    have same := List.find?_some (found : List.find? _ _ = some s)
    exact (beq_iff_eq.mp same).symm
  · rintro rfl
    cases s <;> rfl

namespace Notation

/-! ## Operands -/

/-- What can be wrong with plain data that stands for an operand: an expression does not compile, or
    a condition is neither of the two that there are. In a list it may be wrong with any member. -/
inductive OperandFault : Value → Fault → Prop where
  | pattern {argument : Value} {source : String} {flaw : Pattern.Flaw}
      (shown : argument.display = .ok source) (refused : Pattern.compile source = .error flaw) :
      OperandFault (.dict [(.text "pattern", argument)]) (.pattern source flaw)
  | condition {argument : Value} {word : String} (shown : argument.display = .ok word)
      (unknown : word ≠ "blank" ∧ word ≠ "present") :
      OperandFault (.dict [(.text "is", argument)]) (.condition word)
  | member {items : List Value} {v : Value} {e : Fault} (member : v ∈ items)
      (fault : OperandFault v e) : OperandFault (.list items) e

theorem reveals_pattern (source : String) :
    Reveals (fun e => ∃ flaw, Pattern.compile source = .error flaw ∧ e = .pattern source flaw)
      (pattern source) := by
  unfold pattern
  cases compiled : Pattern.compile source with
  | ok p =>
    rintro e ⟨flaw, refused, _⟩
    cases refused
  | error flaw => exact ⟨flaw, rfl, rfl⟩

theorem reveals_condition (word : String) :
    Reveals (fun e => (word ≠ "blank" ∧ word ≠ "present") ∧ e = .condition word)
      (condition word) := by
  unfold condition
  split
  next isBlank => exact fun e wrong => wrong.1.1 (Sentinel.ofText?_iff.mp isBlank)
  next isPresent => exact fun e wrong => wrong.1.2 (Sentinel.ofText?_iff.mp isPresent)
  next notBlank notPresent =>
    refine ⟨⟨fun isBlank => ?_, fun isPresent => ?_⟩, rfl⟩
    · exact notBlank (Sentinel.ofText?_iff.mpr isBlank)
    · exact notPresent (Sentinel.ofText?_iff.mpr isPresent)

theorem operandFault_tagged_iff {tag : String} {argument : Value} {e : Fault} :
    OperandFault (.dict [(.text tag, argument)]) e ↔
      (tag = "pattern" ∧ ∃ source, argument.display = .ok source ∧
        ∃ flaw, Pattern.compile source = .error flaw ∧ e = .pattern source flaw) ∨
      (tag = "is" ∧ ∃ word, argument.display = .ok word ∧
        (word ≠ "blank" ∧ word ≠ "present") ∧ e = .condition word) := by
  constructor
  · intro fault
    cases fault with
    | pattern shown refused => exact .inl ⟨rfl, _, shown, _, refused, rfl⟩
    | condition shown unknown => exact .inr ⟨rfl, _, shown, unknown, rfl⟩
  · rintro (⟨rfl, source, shown, flaw, refused, rfl⟩ | ⟨rfl, word, shown, unknown, rfl⟩)
    · exact .pattern shown refused
    · exact .condition shown unknown

/-- Of the mappings that stand for something only those for an expression and for a condition may
    be wrong. -/
theorem reveals_tagged {argument : Value} (plain : argument.Plain) (tag : String) :
    Reveals (OperandFault (.dict [(.text tag, argument)]))
      (operand (.dict [(.text tag, argument)])) := by
  obtain ⟨shown, isShown⟩ := plain.display
  rw [operand]
  unfold tagged?
  split
  · rw [Option.getD_some, isShown]
    intro e fault
    simpa using operandFault_tagged_iff.mp fault
  · rw [Option.getD_some, isShown]
    refine (reveals_pattern shown).congr fun e => ?_
    simp [operandFault_tagged_iff, isShown]
  · rw [Option.getD_some, isShown]
    intro e fault
    simpa using operandFault_tagged_iff.mp fault
  · rw [Option.getD_some, isShown]
    refine (reveals_condition shown).congr fun e => ?_
    simp [operandFault_tagged_iff, isShown]
  next notPattern _ notIs =>
    intro e fault
    rcases operandFault_tagged_iff.mp fault with ⟨isPattern, _⟩ | ⟨isIs, _⟩
    · exact notPattern isPattern
    · exact notIs isIs

/-- Other mappings stand for themselves. -/
theorem reveals_untagged {entries : Entries}
    (untagged : ∀ tag argument, entries ≠ [(.text tag, argument)]) :
    Reveals (OperandFault (.dict entries)) (operand (.dict entries)) := by
  have itself : operand (.dict entries) = .ok (.dict entries) := by
    rw [operand]
    · intro items same
      cases same
    · intro tag argument same
      exact untagged tag argument (Value.dict.inj same)
  rw [itself]
  intro e fault
  cases fault with
  | pattern | condition => exact untagged _ _ rfl

theorem operandFault_list_iff {items : List Value} {e : Fault} :
    OperandFault (.list items) e ↔ ∃ v ∈ items, OperandFault v e := by
  constructor
  · intro fault
    cases fault with
    | member member fault => exact ⟨_, member, fault⟩
  · rintro ⟨v, member, fault⟩
    exact .member member fault

theorem reveals_operand {v : Value} (plain : v.Plain) :
    Reveals (OperandFault v) (operand v) := by
  induction plain with
  | @scalar v isScalar =>
    rw [operand_scalar isScalar]
    intro e fault
    cases fault <;> cases isScalar
  | @list items each ih =>
    rw [operand, operands_eq_mapM]
    exact .map ((Reveals.mapM ih).congr fun e => operandFault_list_iff.symm) _
  | tuple | set =>
    intro e fault
    cases fault
  | @dict entries keys values =>
    by_cases tagged : ∃ tag argument, entries = [(.text tag, argument)]
    · obtain ⟨tag, argument, rfl⟩ := tagged
      exact reveals_tagged (values _ List.mem_cons_self) tag
    · exact reveals_untagged fun tag argument same => tagged ⟨tag, argument, same⟩

/-! ## Options -/

/-- What can be wrong with an option: a bound is a text that is no date, an expression does not
    compile, the conditions are no mapping, or an operand is wrong. -/
inductive OptionFault (key v : Value) (e : Fault) : Prop where
  | bound {s : String} (isBound : key = .text "before" ∨ key = .text "after") (isText : v = .text s)
      (noWord : s ≠ "now" ∧ s ≠ "today") (unread : ∀ day, Value.readDate s ≠ .ok day)
      (isFault : e = .boundText s)
  | expression {source : String} {flaw : Pattern.Flaw} (isMatching : key = .text "matching")
      (isText : v = .text source) (refused : Pattern.compile source = .error flaw)
      (isFault : e = .pattern source flaw)
  | noConditions (isWhen : key = .text "when") (noMapping : ∀ conditions, v ≠ .dict conditions)
      (isFault : e = .conditions)
  | condition {conditions : Entries} {condition : Value × Value} (isWhen : key = .text "when")
      (areConditions : v = .dict conditions) (member : condition ∈ conditions)
      (fault : OperandFault condition.2 e)
  | operand (notWhen : key ≠ .text "when") (fault : OperandFault v e)

theorem not_operandFault_text (s : String) (e : Fault) : ¬OperandFault (.text s) e := by
  intro fault
  cases fault

theorem optionFault_bound_iff {key v : Value} {e : Fault}
    (isBound : key = .text "before" ∨ key = .text "after") :
    OptionFault key v e ↔
      (∃ s, v = .text s ∧ (s ≠ "now" ∧ s ≠ "today") ∧ (∀ day, Value.readDate s ≠ .ok day) ∧
        e = .boundText s) ∨ OperandFault v e := by
  have other {name : String} (apart : "before" ≠ name ∧ "after" ≠ name) : key ≠ .text name := by
    rintro rfl
    simp [apart.1.symm, apart.2.symm] at isBound
  constructor
  · intro fault
    cases fault with
    | bound _ isText noWord unread isFault => exact .inl ⟨_, isText, noWord, unread, isFault⟩
    | expression isMatching => exact absurd isMatching (other (by decide))
    | noConditions isWhen => exact absurd isWhen (other (by decide))
    | condition isWhen => exact absurd isWhen (other (by decide))
    | operand _ fault => exact .inr fault
  · rintro (⟨s, isText, noWord, unread, isFault⟩ | fault)
    · exact .bound isBound isText noWord unread isFault
    · exact .operand (other (by decide)) fault

theorem reveals_readDate (s : String) :
    Reveals (fun e => (∀ day, Value.readDate s ≠ .ok day) ∧ e = .boundText s)
      (Value.readDate s) := by
  cases read : Value.readDate s with
  | ok day => exact fun e wrong => wrong.1 day rfl
  | error e =>
    refine ⟨nofun, ?_⟩
    unfold Value.readDate at read
    dsimp only at read
    split at read
    · cases read
    · exact (Except.error.inj read).symm

/-- A bound as a text is one of two words or a date; others are operands. -/
theorem reveals_bound {key v : Value} (isBound : key = .text "before" ∨ key = .text "after")
    (plain : v.Plain) : Reveals (OptionFault key v) (bound v) := by
  have faults (e : Fault) := @optionFault_bound_iff key v e isBound
  cases v with
  | text s =>
    by_cases word : s = "now" ∨ s = "today"
    · have noFault : ∀ e, ¬OptionFault key (.text s) e := by
        intro e fault
        rcases (faults e).mp fault with ⟨_, isText, noWord, _⟩ | fault
        · obtain rfl := Value.text.inj isText
          exact word.elim noWord.1 noWord.2
        · exact not_operandFault_text s e fault
      rcases word with rfl | rfl
      · exact noFault
      · exact noFault
    · obtain ⟨notNow, notToday⟩ := not_or.mp word
      have read : bound (.text s) = Value.readDate s := by
        rw [bound]
        · exact notNow
        · exact notToday
      rw [read]
      refine (reveals_readDate s).congr fun e => ?_
      rw [faults e]
      constructor
      · rintro ⟨unread, isFault⟩
        exact .inl ⟨s, rfl, ⟨notNow, notToday⟩, unread, isFault⟩
      · rintro (⟨_, isText, _, unread, isFault⟩ | fault)
        · obtain rfl := Value.text.inj isText
          exact ⟨unread, isFault⟩
        · exact absurd fault (not_operandFault_text s e)
  | _ => exact (reveals_operand plain).congr fun e => by simp [faults e]

theorem reveals_matching (source : String) :
    Reveals (OptionFault (.text "matching") (.text source)) (pattern source) := by
  refine (reveals_pattern source).congr fun e => ⟨?_, fun fault => ?_⟩
  · rintro ⟨flaw, refused, rfl⟩
    exact .expression rfl rfl refused rfl
  · cases fault with
    | bound isBound => simp at isBound
    | expression _ isText refused isFault =>
      obtain rfl := Value.text.inj isText
      exact ⟨_, refused, isFault⟩
    | noConditions isWhen => simp at isWhen
    | condition isWhen => simp at isWhen
    | operand _ fault => exact absurd fault (not_operandFault_text source e)

theorem reveals_conditions {conditions : Entries} (plain : (Value.dict conditions).Plain) :
    Reveals (OptionFault (.text "when") (.dict conditions))
      (mapEntries (fun _ => operand) conditions) := by
  have each := Value.Plain.dict_iff.mp plain
  refine (Reveals.mapM fun entry member =>
    .map (reveals_operand (each entry member).2) (entry.1, ·)).congr fun e => ⟨?_, fun fault => ?_⟩
  · rintro ⟨entry, member, fault⟩
    exact .condition rfl rfl member fault
  · cases fault with
    | bound isBound => simp at isBound
    | expression isMatching => simp at isMatching
    | noConditions _ noMapping => exact absurd rfl (noMapping conditions)
    | condition _ areConditions member fault =>
      obtain rfl := Value.dict.inj areConditions
      exact ⟨_, member, fault⟩
    | operand notWhen => exact absurd rfl notWhen

theorem reveals_option {key v : Value} (plain : v.Plain) :
    Reveals (OptionFault key v) (option key v) := by
  unfold option
  split
  · exact reveals_bound (.inl rfl) plain
  · exact reveals_bound (.inr rfl) plain
  · exact reveals_matching _
  · exact .map (reveals_conditions plain) _
  next noMapping => exact .noConditions rfl noMapping rfl
  next notBefore notAfter notWhen notMatching notConditions =>
    refine (reveals_operand plain).congr fun e => ⟨.operand notWhen, fun fault => ?_⟩
    cases fault with
    | bound isBound => exact (isBound.elim notBefore notAfter).elim
    | expression isMatching isText => exact (notMatching _ isMatching isText).elim
    | noConditions isWhen => exact absurd isWhen notWhen
    | condition isWhen => exact absurd isWhen notWhen
    | operand _ fault => exact fault

/-- What can be wrong with options: they are no mapping, or one of them is wrong. -/
inductive OptionsFault (v : Value) (e : Fault) : Prop where
  | noMapping (noMapping : ∀ entries, v ≠ .dict entries) (isFault : e = .noAttribute v.kind "items")
  | option {entries : Entries} {entry : Value × Value} (areEntries : v = .dict entries)
      (member : entry ∈ entries) (fault : OptionFault entry.1 entry.2 e)

theorem reveals_options {v : Value} (plain : v.Plain) : Reveals (OptionsFault v) (options v) := by
  cases v with
  | dict entries =>
    have each := Value.Plain.dict_iff.mp plain
    refine (Reveals.mapM fun entry member =>
      .map (reveals_option (each entry member).2) (entry.1, ·)).congr fun e => ⟨?_, fun fault => ?_⟩
    · rintro ⟨entry, member, fault⟩
      exact .option rfl member fault
    · cases fault with
      | noMapping noMapping => exact absurd rfl (noMapping entries)
      | option areEntries member fault =>
        obtain rfl := Value.dict.inj areEntries
        exact ⟨_, member, fault⟩
  | _ => exact .noMapping nofun rfl

/-! ## The families of faults in options -/

/-- A fault about an expression that does not compile. -/
def Uncompiled (e : Fault) : Prop :=
  ∃ source flaw, Pattern.compile source = .error flaw ∧ e = .pattern source flaw

theorem OperandFault.family {v : Value} {e : Fault} (fault : OperandFault v e) :
    e.family = .declaration ∨ Uncompiled e := by
  induction fault with
  | pattern _ refused => exact .inr ⟨_, _, refused, rfl⟩
  | condition => exact .inl rfl
  | member _ _ ih => exact ih

theorem OptionFault.family {key v : Value} {e : Fault} (fault : OptionFault key v e) :
    e.family = .declaration ∨ Uncompiled e := by
  cases fault with
  | bound _ _ _ _ isFault => exact .inl (congrArg Fault.family isFault)
  | expression _ _ refused isFault => exact .inr ⟨_, _, refused, isFault⟩
  | noConditions _ _ isFault => exact .inl (congrArg Fault.family isFault)
  | condition _ _ _ fault => exact fault.family
  | operand _ fault => exact fault.family

end Notation

end RecordRules
