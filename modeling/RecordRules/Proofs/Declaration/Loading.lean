import Mathlib
import RecordRules.Declaration.Document
import RecordRules.Proofs.Engine.Building

/-!
# Loaded declarations

A rule file that is accepted gives one declaration for each element of its lists, in order, and each
says what its element says (`written_of_loaded`). An engine is built of them without a fault: it
holds the rules of those that are enabled (`build_of_loaded`).
-/

namespace RecordRules

namespace Declaration

/-- What an element of the list of an attribute says of a rule, at its place in the list. -/
structure Written (field : Value) (index : Nat) (entries : Entries) (d : Declaration) : Prop where
  kind : ∃ word, entries.get? (.text "type") = some word ∧ RuleKind.ofValue? word = some d.kind
  about : d.field = field
  name : ∃ generated, generatedName field d.kind index = .ok generated ∧
    d.name = (entries.get? (.text "name")).getD (.text generated)
  severity : d.severity = (entries.get? (.text "severity")).getD (.text "error")
  known : ∃ severity, Severity.ofValue? d.severity = some severity
  parameters : Notation.options (writtenOptions entries) = .ok d.parameters
  enabled : d.enabled = (entries.get? (.text "enabled")).getD (.bool true)

theorem written_of_ofEntries {field word : Value} {kind : RuleKind} {index : Nat}
    {entries : Entries} {d : Declaration} (typed : entries.get? (.text "type") = some word)
    (isKind : RuleKind.ofValue? word = some kind)
    (came : ofEntries field kind index entries = .ok d) : Written field index entries d := by
  unfold ofEntries at came
  obtain ⟨generated, isGenerated, rest⟩ := ok_bind_iff.mp came
  dsimp only at rest
  split at rest
  next unknown =>
    obtain ⟨_, _, afterShown⟩ := ok_bind_iff.mp rest
    obtain ⟨_, _, afterNamed⟩ := ok_bind_iff.mp afterShown
    obtain ⟨_, thrown, _⟩ := ok_bind_iff.mp afterNamed
    cases thrown
  next known =>
    obtain ⟨parameters, areParameters, made⟩ := ok_bind_iff.mp rest
    obtain rfl := ok_pure_iff.mp made
    exact ⟨⟨word, typed, isKind⟩, rfl, ⟨generated, isGenerated, rfl⟩, rfl,
      Option.ne_none_iff_exists'.mp (by simpa using known), areParameters, rfl⟩

theorem ofEntries_of_written {field : Value} {index : Nat} {entries : Entries} {d : Declaration}
    (written : Written field index entries d) : ofEntries field d.kind index entries = .ok d := by
  obtain ⟨generated, isGenerated, isName⟩ := written.name
  obtain ⟨severity, known⟩ := written.known
  obtain ⟨name, kind, about, parameters, _, enabled⟩ := d
  have parametersOk := written.parameters
  obtain rfl : about = field := written.about
  obtain rfl := isName
  obtain rfl := written.severity
  obtain rfl := written.enabled
  have isSome : (Severity.ofValue? ((entries.get? (.text "severity")).getD
      (.text Severity.error.text))).isNone = false := by
    rw [Option.isNone_eq_false_iff, Option.isSome_iff_exists]
    exact ⟨severity, known⟩
  unfold ofEntries
  rw [isGenerated, parametersOk]
  simp only [Bind.bind, Except.bind, isSome]
  rfl

/-- An element is accepted just when it is a mapping and the declaration is what it says. -/
theorem ofElement_ok_iff {field written : Value} {index : Nat} {d : Declaration} :
    ofElement field index written = .ok d ↔
      ∃ entries, written = .dict entries ∧ Written field index entries d := by
  constructor
  · intro came
    unfold ofElement at came
    obtain ⟨hasType, mentions, rest⟩ := ok_bind_iff.mp came
    dsimp only at rest
    split at rest
    · obtain ⟨_, _, afterShown⟩ := ok_bind_iff.mp rest
      obtain ⟨_, thrown, _⟩ := ok_bind_iff.mp afterShown
      cases thrown
    · obtain ⟨word, isWord, afterWord⟩ := ok_bind_iff.mp rest
      split at afterWord
      · obtain ⟨_, _, afterShown⟩ := ok_bind_iff.mp afterWord
        obtain ⟨_, _, thrown⟩ := ok_bind_iff.mp afterShown
        cases thrown
      next kind entries isKind =>
        exact ⟨entries, rfl, written_of_ofEntries (Installed.demand_ok_iff.mp isWord) isKind afterWord⟩
      · cases afterWord
  · rintro ⟨entries, rfl, written⟩
    obtain ⟨word, isWord, isKind⟩ := written.kind
    have mentioned : (Value.dict entries).mentions "type" = .ok true := by
      rw [Value.mentions, isWord]
      rfl
    have part : (Value.dict entries).part "type" = .ok word := Installed.demand_ok_iff.mpr isWord
    have came : ofElement field index (.dict entries) = ofEntries field d.kind index entries := by
      unfold ofElement
      simp only [mentioned, part, isKind, Bind.bind, Except.bind]
      rfl
    rw [came, ofEntries_of_written written]

/-! ## Lists of elements -/

theorem ofElements_eq_mapM (field : Value) (index : Nat) (elements : List Value) :
    ofElements field index elements
      = (elements.zipIdx index).mapM fun e => ofElement field e.2 e.1 := by
  induction elements generalizing index with
  | nil => rfl
  | cons written rest ih => rw [ofElements, List.zipIdx_cons, List.mapM_cons, ih]

theorem ofElements_ok_iff {field : Value} {index : Nat} {elements : List Value}
    {declarations : List Declaration} :
    ofElements field index elements = .ok declarations ↔
      List.Forall₂ (fun e d => ofElement field e.2 e.1 = .ok d) (elements.zipIdx index)
        declarations := by
  rw [ofElements_eq_mapM, ok_mapM_iff]

/-- The elements of the list of an attribute, each with the attribute and its place. -/
def elementsOf (field : Value) : Value → List (Value × Value × Nat)
  | .list elements => elements.zipIdx.map fun e => (field, e)
  | _ => []

/-- The elements of a section of rules, in order. -/
def elementsIn (fields : Entries) : List (Value × Value × Nat) :=
  fields.flatMap fun (field, rules) => elementsOf field rules

/-- A declaration is what an element says. -/
def IsWritten (element : Value × Value × Nat) (d : Declaration) : Prop :=
  ∃ entries, element.2.1 = .dict entries ∧ Written element.1 element.2.2 entries d

theorem ofField_ok_iff {field rules : Value} {declarations : List Declaration} :
    ofField field rules = .ok declarations ↔
      ∃ elements, rules = .list elements ∧ ofElements field 0 elements = .ok declarations := by
  constructor
  · intro came
    cases rules with
    | list elements => exact ⟨elements, rfl, came⟩
    | _ =>
      obtain ⟨_, _, thrown⟩ := ok_bind_iff.mp came
      cases thrown
  · rintro ⟨elements, rfl, came⟩
    exact came

theorem written_of_ofField {field rules : Value} {declarations : List Declaration}
    (came : ofField field rules = .ok declarations) :
    List.Forall₂ IsWritten (elementsOf field rules) declarations := by
  obtain ⟨elements, rfl, each⟩ := ofField_ok_iff.mp came
  rw [elementsOf, List.forall₂_map_left_iff]
  exact (ofElements_ok_iff.mp each).imp fun _ _ => ofElement_ok_iff.mp

theorem part_ok_iff {v found : Value} {word : String} :
    v.part word = .ok found ↔
      ∃ entries, v = .dict entries ∧ Entries.get? entries (.text word) = some found := by
  cases v <;> simp [Value.part, Installed.demand_ok_iff]

/-- A document is accepted just when it has a section of rules and each list in it is accepted. -/
theorem ofDocument_ok_iff {document : Value} {declarations : List Declaration} :
    ofDocument document = .ok declarations ↔
      ∃ fields groups, document.part "rules" = .ok (.dict fields) ∧
        List.Forall₂ (fun entry group => ofField entry.1 entry.2 = .ok group) fields groups ∧
        declarations = groups.flatten := by
  constructor
  · intro loaded
    unfold ofDocument at loaded
    split at loaded
    · cases loaded
    obtain ⟨hasRules, _, rest⟩ := ok_bind_iff.mp loaded
    dsimp only at rest
    split at rest
    · cases rest
    obtain ⟨rules, areRules, came⟩ := ok_bind_iff.mp rest
    cases rules with
    | dict fields =>
      obtain ⟨groups, each, same⟩ := ok_bind_iff.mp came
      exact ⟨fields, groups, areRules, ok_mapM_iff.mp each, (ok_pure_iff.mp same).symm⟩
    | _ => cases came
  · rintro ⟨fields, groups, areRules, each, rfl⟩
    obtain ⟨entries, rfl, found⟩ := part_ok_iff.mp areRules
    have filled : entries ≠ [] := by
      rintro rfl
      cases found
    have mentioned : (Value.dict entries).mentions "rules" = .ok true := by
      rw [Value.mentions, found]
      rfl
    have truthy : (Value.dict entries).truthy = true := by
      simpa [Value.truthy] using filled
    have listed : ofSection (.dict fields) = .ok groups.flatten :=
      ok_bind_iff.mpr ⟨groups, ok_mapM_iff.mpr each, rfl⟩
    unfold ofDocument
    rw [truthy, mentioned, areRules]
    exact listed

/-- A document that is accepted has a section of rules, and gives one declaration for each element
    in it, in order. -/
theorem written_of_loaded {document : Value} {declarations : List Declaration}
    (loaded : ofDocument document = .ok declarations) :
    ∃ fields, document.part "rules" = .ok (.dict fields) ∧
      List.Forall₂ IsWritten (elementsIn fields) declarations := by
  obtain ⟨fields, groups, areRules, each, rfl⟩ := ofDocument_ok_iff.mp loaded
  refine ⟨fields, areRules, ?_⟩
  rw [elementsIn, List.flatMap_def]
  refine List.rel_flatten (List.forall₂_map_left_iff.mpr (each.imp ?_))
  exact fun _ _ => written_of_ofField

/-- A name that a document spells out for one of its rules. -/
def Spells (document name : Value) : Prop :=
  ∃ (fields : Entries) (element : Value × Value × Nat) (entries : Entries),
    document.part "rules" = .ok (.dict fields) ∧ element ∈ elementsIn fields ∧
      element.2.1 = .dict entries ∧ entries.get? (.text "name") = some name

/-- A name that is not spelled out is made, and then it is a text. -/
theorem name_of_loaded {document : Value} {declarations : List Declaration}
    (loaded : ofDocument document = .ok declarations) :
    ∀ d ∈ declarations, Spells document d.name ∨ ∃ text, d.name = .text text := by
  obtain ⟨fields, areRules, each⟩ := written_of_loaded loaded
  intro d member
  obtain ⟨element, inRules, entries, isDict, written⟩ := exists_of_mem_left each.flip d member
  obtain ⟨generated, _, nameIs⟩ := written.name
  cases spelled : Entries.get? entries (.text "name") with
  | some name =>
    rw [spelled] at nameIs
    exact .inl ⟨fields, element, entries, areRules, inRules, isDict, nameIs ▸ spelled⟩
  | none =>
    rw [spelled] at nameIs
    exact .inr ⟨generated, nameIs⟩

/-! ## Building from what was loaded -/

/-- The rule that a declaration stands for. -/
def installed (d : Declaration) : Installed :=
  let severity := (Severity.ofValue? d.severity).getD .error
  { name := d.name, severity, kind := d.kind,
    rule := { field := d.field, options := Installed.options d.parameters d.name severity } }

theorem ofDeclaration_toValue {d : Declaration}
    (known : ∃ severity, Severity.ofValue? d.severity = some severity) :
    Installed.ofDeclaration d.toValue
      = .ok (if d.enabled.truthy then some d.installed else none) := by
  obtain ⟨severity, isSeverity⟩ := known
  have parameters : ((Value.dict d.parameters).orElse (.dict [])).asEntries = .ok d.parameters := by
    rw [Value.orElse_dict]
    rfl
  unfold Installed.ofDeclaration toValue
  simp only [Installed.ofEntries, Entries.demand, Entries.option, Entries.get?_cons_text,
    String.reduceEq, reduceIte, Option.getD_some, isSeverity, parameters]
  cases on : d.enabled.truthy with
  | false => rfl
  | true =>
    have isKind : RuleKind.ofValue? (.text d.kind.text) = some d.kind := RuleKind.ofValue?_iff.mpr rfl
    simp [installed, isSeverity, Value.asKey_text, isKind, Bind.bind, Except.bind, Pure.pure,
      Except.pure]

/-- An engine is built of the declarations in a document: it holds the rules of those that are
    enabled, in order. -/
theorem build_of_loaded {document : Value} {declarations : List Declaration}
    (loaded : ofDocument document = .ok declarations) :
    Engine.build (listValue declarations)
      = .ok ⟨(declarations.filter fun d => d.enabled.truthy).map installed⟩ := by
  obtain ⟨fields, _, each⟩ := written_of_loaded loaded
  have asks : ∀ d ∈ declarations, Installed.ofDeclaration d.toValue
      = .ok (if d.enabled.truthy then some d.installed else none) := by
    intro d member
    obtain ⟨_, _, _, _, written⟩ := exists_of_mem_left each.flip d member
    exact ofDeclaration_toValue written.known
  refine Engine.build_ok_iff.mpr
    ⟨declarations.map fun d => if d.enabled.truthy then some d.installed else none, ?_, ?_⟩
  · rw [List.forall₂_map_left_iff, List.forall₂_map_right_iff]
    exact List.forall₂_same.mpr asks
  · clear loaded each asks
    induction declarations with
    | nil => rfl
    | cons d rest ih => cases on : d.enabled.truthy <;> simpa [on] using ih

end Declaration

end RecordRules
