import RecordRules.Proofs.Declaration.Loading
import RecordRules.Proofs.Declaration.OptionFaults
import RecordRules.Proofs.Yaml.Denoted

/-!
# Faults of rule files

A rule file of plain data gives its declarations just when nothing is wrong with it, and else stops
with one of the faults in it (`faults_of_document`). Most are faults of declarations. Others are not:
where a document or a rule is no mapping, where a section of rules or the options of a rule are none,
and where an expression does not compile.
-/

namespace RecordRules

/-! ## Words that are looked for -/

/-- Looking for the part under a word stops in something that is no mapping. -/
def Value.Refuses (v : Value) (word : String) (e : Fault) : Prop :=
  v.mentions word = .error e ∨ v.mentions word = .ok true ∧ v.part word = .error e

namespace Value

variable {v : Value} {word : String}

theorem mentions_of_part {found : Value} (isFound : v.part word = .ok found) :
    v.mentions word = .ok true := by
  obtain ⟨entries, rfl, isEntry⟩ := Declaration.part_ok_iff.mp isFound
  rw [mentions, isEntry]
  rfl

theorem truthy_of_part {found : Value} (isFound : v.part word = .ok found) :
    v.truthy = true := by
  obtain ⟨entries, rfl, isEntry⟩ := Declaration.part_ok_iff.mp isFound
  cases entries with
  | nil => cases isEntry
  | cons => rfl

theorem not_refuses_of_part {found : Value} (isFound : v.part word = .ok found) (e : Fault) :
    ¬v.Refuses word e := by
  rintro (unasked | ⟨_, stopped⟩)
  · rw [mentions_of_part isFound] at unasked
    cases unasked
  · rw [isFound] at stopped
    cases stopped

theorem family_of_refuses {e : Fault} (refuses : v.Refuses word e) : e.family = .type := by
  rcases refuses with unasked | ⟨mentioned, stopped⟩
  · cases v <;> cases unasked <;> rfl
  cases v with
  | dict entries =>
    obtain ⟨found, isFound⟩ := Option.isSome_iff_exists.mp (Except.ok.inj mentioned)
    rw [Declaration.part_ok_iff.mpr ⟨entries, rfl, isFound⟩] at stopped
    cases stopped
  | _ => cases stopped; rfl

end Value

namespace Declaration

open Notation (OptionsFault Uncompiled)

/-! ## Elements -/

/-- What can be wrong with the severity of a rule: it is neither of the two that there are. The
    fault tells the name of the rule. -/
structure SeverityFault (field : Value) (kind : RuleKind) (index : Nat) (entries : Entries)
    (e : Fault) : Prop where
  unknown : Severity.ofValue? ((entries.get? (.text "severity")).getD (.text "error")) = none
  isFault : ∃ generated severity name, generatedName field kind index = .ok generated ∧
    ((entries.get? (.text "severity")).getD (.text "error")).display = .ok severity ∧
    ((entries.get? (.text "name")).getD (.text generated)).display = .ok name ∧
    e = .severity severity name true

/-- What can be wrong with an element of the list of an attribute: it is no mapping, it has no type
    or one that is unknown, its severity is unknown, or its options are wrong. -/
inductive ElementFault (field : Value) (index : Nat) (written : Value) (e : Fault) : Prop where
  | refuses (refuses : written.Refuses "type" e)
  | noType {shown : String} (untyped : written.mentions "type" = .ok false)
      (isShown : field.display = .ok shown) (isFault : e = .noType shown)
  | type {type : Value} {typeShown shown : String} (typed : written.part "type" = .ok type)
      (unknown : RuleKind.ofValue? type = none) (isTypeShown : type.display = .ok typeShown)
      (isShown : field.display = .ok shown) (isFault : e = .typeOfField typeShown shown)
  | content {type : Value} {kind : RuleKind} {entries : Entries}
      (typed : written.part "type" = .ok type) (isKind : RuleKind.ofValue? type = some kind)
      (isDict : written = .dict entries)
      (fault : SeverityFault field kind index entries e ∨ OptionsFault (writtenOptions entries) e)

theorem plain_writtenOptions {entries : Entries} (plain : (Value.dict entries).Plain) :
    (writtenOptions entries).Plain := by
  have empty : (Value.dict []).Plain := Value.Plain.dict_iff.mpr nofun
  unfold writtenOptions Value.orElse
  dsimp only
  split
  · exact plain.getD_get? "params" (plain.getD_get? "parameters" empty)
  · exact empty

theorem reveals_ofEntries {field : Value} (kind : RuleKind) (index : Nat) {entries : Entries}
    (plainField : field.Plain) (plain : (Value.dict entries).Plain) :
    Reveals (fun e => SeverityFault field kind index entries e ∨
      OptionsFault (writtenOptions entries) e) (ofEntries field kind index entries) := by
  obtain ⟨shown, isShown⟩ := plainField.display
  obtain ⟨generatedText, generated⟩ : ∃ text, generatedName field kind index = .ok text := by
    rw [generatedName, isShown]
    exact ⟨_, rfl⟩
  obtain ⟨name, isName⟩ := (plain.getD_get? "name" (.of_text generatedText)).display
  obtain ⟨severity, isSeverity⟩ := 
    (plain.getD_get? "severity" (.of_text Severity.error.text)).display
  unfold ofEntries
  rw [generated]
  show Reveals _ (if (Severity.ofValue? ((entries.get? (.text "severity")).getD
    (.text "error"))).isNone then _ else _)
  split
  next isNone =>
    have unknown := Option.isNone_iff_eq_none.mp isNone
    rw [isSeverity, isName]
    exact .inl ⟨unknown, _, severity, name, generated, isSeverity, isName, rfl⟩
  next known =>
    have noFault : ∀ e, ¬SeverityFault field kind index entries e := by
      intro e fault
      exact known (Option.isNone_iff_eq_none.mpr fault.unknown)
    refine .map (.congr (Notation.reveals_options (plain_writtenOptions plain)) fun e => ?_) _
    exact ⟨.inr, fun fault => fault.resolve_left (noFault e)⟩

theorem reveals_ofElement {field written : Value} (index : Nat) (plainField : field.Plain)
    (plain : written.Plain) :
    Reveals (ElementFault field index written) (ofElement field index written) := by
  obtain ⟨shown, isShown⟩ := plainField.display
  refine .bind (fun e unasked => .refuses (.inl unasked)) fun hasType mentioned => ?_
  cases hasType with
  | false =>
    show Reveals _ (do throw (.noType (← field.display)))
    rw [isShown]
    exact .noType mentioned isShown rfl
  | true =>
    refine .bind (fun e stopped => .refuses (.inr ⟨mentioned, stopped⟩)) fun type typed => ?_
    obtain ⟨entries, rfl, isEntry⟩ := part_ok_iff.mp typed
    obtain ⟨typeShown, isTypeShown⟩ := (plain.of_get? isEntry).display
    cases kindIs : RuleKind.ofValue? type with
    | none =>
      show Reveals _ (do throw (.typeOfField (← type.display) (← field.display)))
      rw [isTypeShown, isShown]
      exact .type typed kindIs isTypeShown isShown rfl
    | some kind =>
      refine (reveals_ofEntries kind index plainField plain).congr fun e => ?_
      refine ⟨.content typed kindIs rfl, fun fault => ?_⟩
      cases fault with
      | refuses refuses => exact absurd refuses (Value.not_refuses_of_part typed e)
      | noType untyped =>
        rw [mentioned] at untyped
        cases untyped
      | type others unknown =>
        obtain rfl := Except.ok.inj (typed.symm.trans others)
        rw [kindIs] at unknown
        cases unknown
      | content others isKind isDict fault =>
        obtain rfl := Except.ok.inj (typed.symm.trans others)
        obtain rfl := Option.some.inj (kindIs.symm.trans isKind)
        obtain rfl := Value.dict.inj isDict
        exact fault

/-! ## Lists, sections and documents -/

/-- What can be wrong with what is given for an attribute: it is no list, or an element is wrong. -/
inductive FieldFault (field rules : Value) (e : Fault) : Prop where
  | noList {shown : String} (noList : ∀ elements, rules ≠ .list elements)
      (isShown : field.display = .ok shown) (isFault : e = .rulesOfField shown)
  | element {element : Value × Value × Nat} (member : element ∈ elementsOf field rules)
      (fault : ElementFault field element.2.2 element.2.1 e)

/-- What can be wrong with a rule file: it has no section of rules, or is no mapping, its section is
    no mapping, or what is given for an attribute is wrong. -/
inductive DocumentFault (document : Value) (e : Fault) : Prop where
  | noRules (unmentioned : document.truthy = false ∨ document.mentions "rules" = .ok false)
      (isFault : e = .noRules)
  | refuses (filled : document.truthy = true) (refuses : document.Refuses "rules" e)
  | noMapping {v : Value} (areRules : document.part "rules" = .ok v)
      (noMapping : ∀ fields, v ≠ .dict fields) (isFault : e = .noAttribute v.kind "items")
  | field {fields : Entries} {entry : Value × Value}
      (areRules : document.part "rules" = .ok (.dict fields)) (member : entry ∈ fields)
      (fault : FieldFault entry.1 entry.2 e)

theorem reveals_ofField {field rules : Value} (plainField : field.Plain) (plain : rules.Plain) :
    Reveals (FieldFault field rules) (ofField field rules) := by
  obtain ⟨shown, isShown⟩ := plainField.display
  cases rules with
  | list elements =>
    have plainElements : ∀ written ∈ elements, written.Plain := by
      cases plain with
      | scalar isScalar => cases isScalar
      | list each => exact each
    have each : ∀ element ∈ elements.zipIdx, Reveals (ElementFault field element.2 element.1)
        (ofElement field element.2 element.1) :=
      fun element member => reveals_ofElement element.2 plainField
        (plainElements element.1 (List.fst_mem_of_mem_zipIdx member))
    rw [ofField, ofElements_eq_mapM]
    refine (Reveals.mapM each).congr fun e => ⟨?_, fun fault => ?_⟩
    · rintro ⟨element, member, fault⟩
      exact .element (List.mem_map_of_mem member) fault
    · cases fault with
      | noList noList => exact absurd rfl (noList elements)
      | element member fault =>
        obtain ⟨element, inList, rfl⟩ := List.mem_map.mp member
        exact ⟨element, inList, fault⟩
  | _ =>
    show Reveals _ (do throw (.rulesOfField (← field.display)))
    rw [isShown]
    exact .noList nofun isShown rfl

theorem reveals_ofSection {document v : Value} (areRules : document.part "rules" = .ok v)
    (plain : v.Plain) : Reveals (DocumentFault document) (ofSection v) := by
  cases v with
  | dict fields =>
    have each := Value.Plain.dict_iff.mp plain
    refine (Reveals.map (Reveals.mapM fun entry member =>
      reveals_ofField (each entry member).1 (each entry member).2) List.flatten).congr
        fun e => ⟨?_, fun fault => ?_⟩
    · rintro ⟨entry, member, fault⟩
      exact .field areRules member fault
    · cases fault with
      | noRules unmentioned =>
        rw [Value.truthy_of_part areRules, Value.mentions_of_part areRules] at unmentioned
        simp at unmentioned
      | refuses _ refuses => exact absurd refuses (Value.not_refuses_of_part areRules e)
      | noMapping others noMapping =>
        obtain rfl := Except.ok.inj (areRules.symm.trans others)
        exact absurd rfl (noMapping fields)
      | field others member fault =>
        obtain rfl := Value.dict.inj (Except.ok.inj (areRules.symm.trans others))
        exact ⟨_, member, fault⟩
  | _ => exact .noMapping areRules nofun rfl

theorem reveals_ofDocument {document : Value} (plain : document.Plain) :
    Reveals (DocumentFault document) (ofDocument document) := by
  unfold ofDocument
  cases filled : document.truthy with
  | false => exact .noRules (.inl filled) rfl
  | true =>
    refine .bind (fun e unasked => .refuses filled (.inl unasked)) fun hasRules mentioned => ?_
    cases hasRules with
    | false => exact .noRules (.inr mentioned) rfl
    | true =>
      refine .bind (fun e stopped => .refuses filled (.inr ⟨mentioned, stopped⟩))
        fun v areRules => ?_
      obtain ⟨entries, rfl, isEntry⟩ := part_ok_iff.mp areRules
      exact reveals_ofSection areRules (plain.of_get? isEntry)

/-- Loading what a text of YAML denotes reveals what is wrong with it. -/
theorem reveals_of_read {text : String} {document : Value}
    (denoted : Yaml.read text = .ok document) :
    Reveals (DocumentFault document) (ofDocument document) :=
  reveals_ofDocument (Yaml.plain_of_read denoted)

/-! ## The families of faults in files -/

/-- The faults of a rule file: those of declarations, those of looking for a word in something that
    is no mapping, those of going through something that is none, and those of expressions that do
    not compile. -/
def IsFileFault (e : Fault) : Prop :=
  e.family = .declaration ∨ e.family = .type ∨ (∃ kind, e = .noAttribute kind "items") ∨
    Uncompiled e

theorem isFileFault_of_options {v : Value} {e : Fault} (fault : OptionsFault v e) : IsFileFault e := by
  cases fault with
  | noMapping _ isFault => exact .inr (.inr (.inl ⟨_, isFault⟩))
  | option _ _ fault => exact fault.family.imp_right fun uncompiled => .inr (.inr uncompiled)

theorem isFileFault_of_element {field written : Value} {index : Nat} {e : Fault}
    (fault : ElementFault field index written e) : IsFileFault e := by
  cases fault with
  | refuses refuses => exact .inr (.inl (Value.family_of_refuses refuses))
  | noType _ _ isFault => exact .inl (congrArg Fault.family isFault)
  | type _ _ _ _ isFault => exact .inl (congrArg Fault.family isFault)
  | content _ _ _ fault =>
    rcases fault with ⟨_, _, _, _, _, _, _, isFault⟩ | fault
    · exact .inl (congrArg Fault.family isFault)
    · exact isFileFault_of_options fault

theorem isFileFault_of_document {document : Value} {e : Fault} (fault : DocumentFault document e) :
    IsFileFault e := by
  cases fault with
  | noRules _ isFault => exact .inl (congrArg Fault.family isFault)
  | refuses _ refuses => exact .inr (.inl (Value.family_of_refuses refuses))
  | noMapping _ _ isFault => exact .inr (.inr (.inl ⟨_, isFault⟩))
  | field _ _ fault =>
    cases fault with
    | noList _ _ isFault => exact .inl (congrArg Fault.family isFault)
    | element _ fault => exact isFileFault_of_element fault

/-- A document of plain data gives declarations just when nothing is wrong with it, and else stops
    with one of its faults. Those that are no faults of declarations are faults of types, where a
    word is looked for in something that is no mapping, of the attribute that only mappings have,
    and of expressions that do not compile. -/
theorem faults_of_document {document : Value} (plain : document.Plain) :
    ((∃ declarations, ofDocument document = .ok declarations) ↔ ∀ e, ¬DocumentFault document e) ∧
      (∀ e, ofDocument document = .error e → DocumentFault document e) ∧
      ∀ e, DocumentFault document e → e.family = .declaration ∨ e.family = .type ∨
        (∃ kind, e = .noAttribute kind "items") ∨
        ∃ source flaw, Pattern.compile source = .error flaw ∧ e = .pattern source flaw := by
  have reveals := reveals_ofDocument plain
  refine ⟨?_, ?_, fun e => isFileFault_of_document⟩
  · constructor
    · rintro ⟨declarations, loaded⟩
      rw [loaded] at reveals
      exact reveals
    · intro faultless
      cases loaded : ofDocument document with
      | ok declarations => exact ⟨declarations, rfl⟩
      | error e =>
        rw [loaded] at reveals
        exact absurd reveals (faultless e)
  · intro e stopped
    rw [stopped] at reveals
    exact reveals

/-- A rule file whose section of rules is left empty. -/
def emptySection : Value := .dict [(.text "rules", .null)]

/-- A rule file that lists some value as a rule. -/
def fileWith (written : Value) : Value :=
  .dict [(.text "rules", .dict [(.text "start", .list [written])])]

/-- A rule with an expression. -/
def matchingRule (source : String) : Value :=
  .dict [(.text "type", .text "must_be"), (.text "params", .dict [(.text "matching", .text source)])]

theorem plain_emptySection : emptySection.Plain :=
  Value.Plain.dict_iff.mpr (List.forall_mem_singleton.mpr ⟨.of_text _, .scalar rfl⟩)

theorem plain_fileWith {written : Value} (plain : written.Plain) : (fileWith written).Plain := by
  have list : (Value.list [written]).Plain := .list (List.forall_mem_singleton.mpr plain)
  have fields : (Value.dict [(.text "start", .list [written])]).Plain :=
    Value.Plain.dict_iff.mpr (List.forall_mem_singleton.mpr ⟨.of_text _, list⟩)
  exact Value.Plain.dict_iff.mpr (List.forall_mem_singleton.mpr ⟨.of_text _, fields⟩)

theorem plain_matchingRule (source : String) : (matchingRule source).Plain := by
  have options : (Value.dict [(.text "matching", .text source)]).Plain :=
    Value.Plain.dict_iff.mpr (List.forall_mem_singleton.mpr ⟨.of_text _, .of_text _⟩)
  refine Value.Plain.dict_iff.mpr (List.forall_mem_cons.mpr ⟨⟨.of_text _, .of_text _⟩, ?_⟩)
  exact List.forall_mem_singleton.mpr ⟨.of_text _, options⟩

/-- A rule with the expression of a single sign is faultless; an empty section is a fault. -/
theorem emptySection_faults :
    emptySection.Plain ∧ DocumentFault emptySection (.noAttribute "NoneType" "items") ∧
      (fileWith (matchingRule "@")).Plain ∧ ∀ e, ¬DocumentFault (fileWith (matchingRule "@")) e := by
  have stopped : ofDocument emptySection = .error (.noAttribute "NoneType" "items") := by cbv
  have plain := plain_fileWith (plain_matchingRule "@")
  have loads : (ofDocument (fileWith (matchingRule "@"))).isOk = true := by cbv
  have loaded : ∃ declarations, ofDocument (fileWith (matchingRule "@")) = .ok declarations := by
    cases came : ofDocument (fileWith (matchingRule "@")) with
    | ok declarations => exact ⟨declarations, rfl⟩
    | error e =>
      rw [came] at loads
      cases loads
  exact ⟨plain_emptySection, (faults_of_document plain_emptySection).2.1 _ stopped, plain,
    (faults_of_document plain).1.mp loaded⟩

/-- Malformed files of plain data stop with faults of other families: of attributes, of types and
    of expressions. -/
theorem malformed_files_stop_otherwise :
    emptySection.Plain ∧ (ofDocument emptySection).mapError Fault.family = .error .attribute ∧
      (fileWith (.int 5)).Plain ∧
      (ofDocument (fileWith (.int 5))).mapError Fault.family = .error .type ∧
      (fileWith (matchingRule "(")).Plain ∧
      (ofDocument (fileWith (matchingRule "("))).mapError Fault.family = .error .pattern :=
  ⟨plain_emptySection, by cbv, plain_fileWith (.scalar rfl), by cbv,
    plain_fileWith (plain_matchingRule "("), by cbv⟩

end Declaration

end RecordRules
