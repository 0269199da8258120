import RecordRules.Declaration.Notation
import RecordRules.Proofs.Value.Plain

/-!
# Writing operands down

Every operand that a rule file can express has a notation, and reading the notation gives the
operand back: `operand_ofOperand` says so of operands within lists at any depth, and
`options_ofOptions` of the options of a rule, where bounds have words of their own.
-/

namespace RecordRules

namespace Notation

/-! ## The notation of operands -/

mutual

/-- The plain data that stands for an operand. -/
def ofOperand : Value → Value
  | .field name => .dict [(.text "field", name)]
  | .method name => .dict [(.text "method", name)]
  | .pattern p => .dict [(.text "pattern", .text p.source)]
  | .sentinel s => .dict [(.text "is", .text s.text)]
  | .list items => .list (ofOperands items)
  | v => v

/-- The plain data that stands for each of several operands. -/
def ofOperands : List Value → List Value
  | [] => []
  | v :: rest => ofOperand v :: ofOperands rest

end

/-- The plain data that stands for a date bound: the present time and day are words. -/
def ofBound : Value → Value
  | .sentinel .now => .text "now"
  | .sentinel .today => .text "today"
  | v => ofOperand v

/-- The plain data that stands for the value of an option. -/
def ofOption (key value : Value) : Value :=
  match key, value with
  | .text "before", v | .text "after", v => ofBound v
  | .text "when", .dict conditions =>
    .dict (conditions.map fun (field, condition) => (field, ofOperand condition))
  | _, v => ofOperand v

/-- The plain data that stands for the options of a rule. -/
def ofOptions (parameters : Entries) : Entries :=
  parameters.map fun (key, v) => (key, ofOption key v)

/-! ## What can be written -/

/-- The operands that have a notation: scalars, references and questions by a name, expressions that
    have been compiled, the words blank and present, and lists of these. -/
inductive Expressible : Value → Prop where
  | scalar {v : Value} (isScalar : v.isScalar = true) : Expressible v
  | field (name : String) : Expressible (.field (.text name))
  | method (name : String) : Expressible (.method (.text name))
  | pattern {p : Pattern} (compiled : Pattern.compile p.source = .ok p) : Expressible (.pattern p)
  | blank : Expressible (.sentinel .blank)
  | present : Expressible (.sentinel .present)
  | list {items : List Value} (each : ∀ v ∈ items, Expressible v) : Expressible (.list items)

/-- The bounds that have a notation: the present time and day, and operands that are no texts. -/
inductive ExpressibleBound : Value → Prop where
  | now : ExpressibleBound (.sentinel .now)
  | today : ExpressibleBound (.sentinel .today)
  | operand {v : Value} (expressible : Expressible v) (noText : ∀ s, v ≠ .text s) :
      ExpressibleBound v

/-- The options that have a notation. -/
inductive ExpressibleOption : Value → Value → Prop where
  | bound {name : String} {v : Value} (isBound : name = "before" ∨ name = "after")
      (expressible : ExpressibleBound v) : ExpressibleOption (.text name) v
  | conditions {conditions : Entries} (each : ∀ entry ∈ conditions, Expressible entry.2) :
      ExpressibleOption (.text "when") (.dict conditions)
  | operand {name : String} {v : Value}
      (other : name ≠ "before" ∧ name ≠ "after" ∧ name ≠ "when")
      (noText : name = "matching" → ∀ s, v ≠ .text s) (expressible : Expressible v) :
      ExpressibleOption (.text name) v

/-! ## Reading what was written -/

theorem ofOperands_eq_map (items : List Value) : ofOperands items = items.map ofOperand := by
  induction items with
  | nil => rfl
  | cons v rest ih => rw [ofOperands, ih, List.map_cons]

theorem operands_eq_mapM (items : List Value) : operands items = items.mapM operand := by
  induction items with
  | nil => rfl
  | cons v rest ih => rw [operands, List.mapM_cons, ih]

/-- Entries are read one by one under their keys. -/
theorem mapEntries_ok_iff {f : Value → Value → Except Fault Value} {entries found : Entries} :
    mapEntries f entries = .ok found ↔
      List.Forall₂ (fun e e' => e.1 = e'.1 ∧ f e.1 e.2 = .ok e'.2) entries found := by
  rw [mapEntries, ok_mapM_iff]
  refine iff_of_eq (congrArg (List.Forall₂ · entries found) ?_)
  funext ⟨key, v⟩ ⟨key', v'⟩
  cases came : f key v <;> simp [came, Bind.bind, Except.bind, Pure.pure, Except.pure]

theorem operand_scalar {v : Value} (scalar : v.isScalar = true) : operand v = .ok v := by
  cases v <;> first | rfl | cases scalar

theorem ofOperand_scalar {v : Value} (scalar : v.isScalar = true) : ofOperand v = v := by
  cases v <;> first | rfl | cases scalar

/-- Only a text is written as a text. -/
theorem text_of_ofOperand {v : Value} {s : String} (written : ofOperand v = .text s) :
    v = .text s := by
  cases v <;> first | exact written | cases written

theorem operand_ofOperand {v : Value} (expressible : Expressible v) :
    operand (ofOperand v) = .ok v := by
  induction expressible with
  | scalar isScalar => rw [ofOperand_scalar isScalar, operand_scalar isScalar]
  | field name => rfl
  | method name => rfl
  | @pattern p compiled =>
    show pattern p.source = .ok (.pattern p)
    rw [pattern, compiled]
    rfl
  | blank => rfl
  | present => rfl
  | @list items each ih =>
    have read : operands (items.map ofOperand) = .ok items := by
      rw [operands_eq_mapM, ok_mapM_iff, List.forall₂_map_left_iff]
      exact List.forall₂_same.mpr ih
    rw [ofOperand, ofOperands_eq_map, operand, read]
    rfl

theorem bound_of_noText {w : Value} (noText : ∀ s, w ≠ .text s) : bound w = operand w := by
  cases w with
  | text s => exact absurd rfl (noText s)
  | _ => rfl

theorem bound_ofBound {v : Value} (expressible : ExpressibleBound v) :
    bound (ofBound v) = .ok v := by
  cases expressible with
  | now => rfl
  | today => rfl
  | operand expressible noText =>
    have written : ofBound v = ofOperand v := by
      cases expressible with
      | scalar isScalar => cases v <;> first | rfl | cases isScalar
      | _ => rfl
    have noTextWritten : ∀ s, ofOperand v ≠ .text s := fun s isText =>
      noText s (text_of_ofOperand isText)
    rw [written, bound_of_noText noTextWritten, operand_ofOperand expressible]

/-- The options that are neither bounds nor conditions nor an expression as a text are operands. -/
theorem option_of_other {name : String} {w : Value}
    (other : name ≠ "before" ∧ name ≠ "after" ∧ name ≠ "when")
    (noText : name = "matching" → ∀ s, w ≠ .text s) : option (.text name) w = operand w := by
  obtain ⟨notBefore, notAfter, notWhen⟩ := other
  unfold option
  split
  next same => exact absurd (Value.text.inj same) notBefore
  next same => exact absurd (Value.text.inj same) notAfter
  next same => exact absurd rfl (noText (Value.text.inj same) _)
  next same => exact absurd (Value.text.inj same) notWhen
  next same _ => exact absurd (Value.text.inj same) notWhen
  next => rfl

theorem ofOption_of_other {name : String} {v : Value}
    (other : name ≠ "before" ∧ name ≠ "after" ∧ name ≠ "when") :
    ofOption (.text name) v = ofOperand v := by
  obtain ⟨notBefore, notAfter, notWhen⟩ := other
  unfold ofOption
  split
  next same => exact absurd (Value.text.inj same) notBefore
  next same => exact absurd (Value.text.inj same) notAfter
  next same => exact absurd (Value.text.inj same) notWhen
  next => rfl

theorem option_ofOption {key v : Value} (expressible : ExpressibleOption key v) :
    option key (ofOption key v) = .ok v := by
  cases expressible with
  | bound isBound expressible =>
    rcases isBound with rfl | rfl
    · exact bound_ofBound expressible
    · exact bound_ofBound expressible
  | @conditions conditions each =>
    have read : mapEntries (fun _ => operand)
        (conditions.map fun (field, condition) => (field, ofOperand condition))
          = .ok conditions := by
      rw [mapEntries_ok_iff, List.forall₂_map_left_iff, List.forall₂_same]
      exact fun entry member => ⟨rfl, operand_ofOperand (each entry member)⟩
    show (do return Value.dict (← mapEntries (fun _ => operand) _)) = _
    rw [read]
    rfl
  | operand other noText expressible =>
    have noTextWritten : _ → ∀ s, ofOperand v ≠ .text s := fun matching s isText =>
      noText matching s (text_of_ofOperand isText)
    rw [ofOption_of_other other, option_of_other other noTextWritten, operand_ofOperand expressible]

/-- Reading the options that were written gives the options back, in their order. -/
theorem options_ofOptions {parameters : Entries}
    (expressible : ∀ entry ∈ parameters, ExpressibleOption entry.1 entry.2) :
    options (.dict (ofOptions parameters)) = .ok parameters := by
  rw [options, mapEntries_ok_iff, ofOptions, List.forall₂_map_left_iff, List.forall₂_same]
  exact fun entry member => ⟨rfl, option_ofOption (expressible entry member)⟩

end Notation

end RecordRules
