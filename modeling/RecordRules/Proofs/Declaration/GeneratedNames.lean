import RecordRules.Proofs.Declaration.Calls
import RecordRules.Proofs.Value.WellFormed

/-!
# Generated names

A rule that is given no name is named for its attribute, its kind and a number. Whatever the
attribute is called, the name tells all three (`generated_inj`). So no two rules share a generated
name, neither in a file, where the number is the place in the list of the attribute, nor among
requests made one after another, where it is how many were made before
(`generated_names_differ`). A file has no attribute twice, since what is read from one is well-formed
(`Yaml.wellFormed_of_read`).
-/

namespace RecordRules

namespace Declaration

/-! ## What a generated name tells -/

/-- A list is parted at the last place of a member in one way only. -/
theorem append_cons_inj_of_free {α : Type} {c : α} {xs ys zs ws : List α} (free : c ∉ zs)
    (freeToo : c ∉ ws) (same : xs ++ c :: zs = ys ++ c :: ws) : xs = ys ∧ zs = ws := by
  rcases List.append_eq_append_iff.mp same with ⟨between, rfl, rest⟩ | ⟨between, rfl, rest⟩
  · cases between with
    | nil => simpa using rest
    | cons d between =>
      obtain ⟨_, rfl⟩ := List.cons.inj rest
      simp at free
  · cases between with
    | nil => simpa [eq_comm] using rest
    | cons d between =>
      obtain ⟨_, rfl⟩ := List.cons.inj rest
      simp at freeToo

/-- The decimal form of a number is that of no other. -/
theorem number_inj {n m : Nat} (same : toString n = toString m) : n = m := by
  have digits : Nat.toDigits 10 n = Nat.toDigits 10 m := by
    simpa using congrArg String.toList same
  simpa using congrArg (Nat.ofDigitChars 10 · 0) digits

/-- The words for the kinds do not end alike, so that what stands before one is told. -/
theorem kind_inj {shown other : String} {kind kind' : RuleKind}
    (same : shown ++ "_" ++ kind.text = other ++ "_" ++ kind'.text) :
    shown = other ∧ kind = kind' := by
  have reversed := congrArg (fun s => s.toList.reverse) same
  cases kind <;> cases kind' <;> simp [RuleKind.text] at reversed
  · exact ⟨String.toList_inj.mp reversed, rfl⟩
  · exact ⟨String.toList_inj.mp reversed, rfl⟩

theorem generated_inj {shown other : String} {kind kind' : RuleKind} {number number' : Nat}
    (same : shown ++ "_" ++ kind.text ++ "_" ++ toString number
      = other ++ "_" ++ kind'.text ++ "_" ++ toString number') :
    shown = other ∧ kind = kind' ∧ number = number' := by
  -- No digit is an underscore, so the last one stands before the number.
  have parted : (shown ++ "_" ++ kind.text).toList ++ '_' :: (toString number).toList
      = (other ++ "_" ++ kind'.text).toList ++ '_' :: (toString number').toList := by
    simpa using congrArg String.toList same
  obtain ⟨before, after⟩ := append_cons_inj_of_free (by simp) (by simp) parted
  obtain ⟨sameShown, sameKind⟩ := kind_inj (String.toList_inj.mp before)
  exact ⟨sameShown, sameKind, number_inj (String.toList_inj.mp after)⟩

/-- That a name is generated for an attribute, a kind and a number. -/
def IsGenerated (field : Value) (kind : RuleKind) (number : Nat) (name : Value) : Prop :=
  ∃ generated, generatedName field kind number = .ok generated ∧ name = .text generated

theorem IsGenerated.exists_shown {field name : Value} {kind : RuleKind} {number : Nat}
    (generated : IsGenerated field kind number name) :
    ∃ shown, field.display = .ok shown ∧
      name = .text (shown ++ "_" ++ kind.text ++ "_" ++ toString number) := by
  obtain ⟨text, isText, rfl⟩ := generated
  obtain ⟨shown, isShown, same⟩ := ok_bind_iff.mp isText
  exact ⟨shown, isShown, congrArg Value.text (ok_pure_iff.mp same).symm⟩

/-- A generated name tells how its attribute is shown, and its number. -/
theorem IsGenerated.inj {field other name : Value} {kind kind' : RuleKind} {number number' : Nat}
    (generated : IsGenerated field kind number name)
    (generatedToo : IsGenerated other kind' number' name) :
    field.display = other.display ∧ number = number' := by
  obtain ⟨shown, isShown, rfl⟩ := generated.exists_shown
  obtain ⟨shown', isShown', same⟩ := generatedToo.exists_shown
  obtain ⟨rfl, _, sameNumber⟩ := generated_inj (Value.text.inj same)
  exact ⟨isShown.trans isShown'.symm, sameNumber⟩

/-- Numbered members of a list have numbers of their own. -/
theorem numbers_apart {α : Type} (xs : List α) : xs.zipIdx.Pairwise fun a b => a.2 ≠ b.2 := by
  have numbers : (xs.zipIdx.map Prod.snd).Nodup := by
    rw [List.zipIdx_map_snd]
    exact List.nodup_range'
  exact List.pairwise_map.mp numbers

/-- Members of two lists in a relation keep what sets those of the first list apart. -/
theorem pairwise_zip {α β : Type} {R : α → β → Prop} {S : α → α → Prop} {xs : List α}
    {ys : List β} (related : List.Forall₂ R xs ys) (apart : xs.Pairwise S) :
    (xs.zip ys).Pairwise fun a b => S a.1 b.1 ∧ R a.1 a.2 ∧ R b.1 b.2 := by
  induction related with
  | nil => exact .nil
  | @cons x y xs ys first others ih =>
    obtain ⟨fromFirst, apartRest⟩ := List.pairwise_cons.mp apart
    refine List.pairwise_cons.mpr ⟨fun pair member => ?_, ih apartRest⟩
    exact ⟨fromFirst _ (List.of_mem_zip member).1, first,
      (List.forall₂_iff_zip.mp others).2 member⟩

/-! ## Rules in a file -/

/-- That an element of a list of rules gives its rule no name. -/
def Unnamed (element : Value × Value × Nat) : Prop :=
  ∃ entries, element.2.1 = .dict entries ∧ Entries.get? entries (.text "name") = none

theorem isGenerated_of_isWritten {element : Value × Value × Nat} {d : Declaration}
    (written : IsWritten element d) (unnamed : Unnamed element) :
    IsGenerated element.1 d.kind element.2.2 d.name := by
  obtain ⟨entries, isDict, tells⟩ := written
  obtain ⟨others, isDictToo, noName⟩ := unnamed
  obtain rfl := Value.dict.inj (isDict.symm.trans isDictToo)
  obtain ⟨generated, isGenerated, isName⟩ := tells.name
  rw [noName, Option.getD_none] at isName
  exact ⟨generated, isGenerated, isName⟩

theorem attribute_of_mem_elementsOf {field rules : Value} {element : Value × Value × Nat}
    (member : element ∈ elementsOf field rules) : element.1 = field := by
  cases rules with
  | list elements =>
    obtain ⟨_, _, rfl⟩ := List.mem_map.mp member
    rfl
  | _ => cases member

/-- The elements of a list have places of their own. -/
theorem places_in_elementsOf (field rules : Value) :
    (elementsOf field rules).Pairwise fun a b => a.2.2 ≠ b.2.2 := by
  cases rules with
  | list elements => exact List.pairwise_map.mpr (numbers_apart elements)
  | _ => exact .nil

/-- The elements of a section are apart by attribute or by place if it has each attribute once. -/
theorem places_in_elementsIn {fields : Entries}
    (once : fields.Pairwise fun a b => a.1 ≠ b.1) :
    (elementsIn fields).Pairwise fun a b => a.1 ≠ b.1 ∨ a.2.2 ≠ b.2.2 := by
  refine List.pairwise_flatMap.mpr ⟨fun entry _ => ?_, once.imp fun {a b} differ x inA y inB => ?_⟩
  · exact (places_in_elementsOf entry.1 entry.2).imp .inr
  · rw [attribute_of_mem_elementsOf inA, attribute_of_mem_elementsOf inB]
    exact .inl differ

/-- In a well-formed document no attribute has two lists. -/
theorem attributes_once {document : Value} {fields : Entries} (formed : document.WellFormed)
    (areRules : document.part "rules" = .ok (.dict fields))
    (named : ∀ entry ∈ fields, ∃ name, entry.1 = .text name) :
    fields.Pairwise fun a b => a.1 ≠ b.1 := by
  obtain ⟨entries, rfl, found⟩ := part_ok_iff.mp areRules
  have apart := (formed.of_get? found).entries_of_dict.1.apart
  rw [List.pairwise_map] at apart
  refine apart.imp_of_mem fun {a b} inA _ differ same => ?_
  obtain ⟨name, isName⟩ := named a inA
  rw [← same, isName, Value.same_text_self] at differ
  cases differ

theorem names_apart_in_file {fields : Entries} {declarations : List Declaration}
    (written : List.Forall₂ IsWritten (elementsIn fields) declarations)
    (once : fields.Pairwise fun a b => a.1 ≠ b.1)
    (named : ∀ entry ∈ fields, ∃ name, entry.1 = .text name) :
    ((elementsIn fields).zip declarations).Pairwise fun a b =>
      Unnamed a.1 → Unnamed b.1 → a.2.name ≠ b.2.name := by
  have isText {pair : (Value × Value × Nat) × Declaration}
      (member : pair ∈ (elementsIn fields).zip declarations) :
      ∃ name, pair.1.1 = .text name := by
    obtain ⟨entry, inFields, inList⟩ := List.mem_flatMap.mp (List.of_mem_zip member).1
    rw [attribute_of_mem_elementsOf inList]
    exact named entry inFields
  refine (pairwise_zip written (places_in_elementsIn once)).imp_of_mem ?_
  rintro a b inA inB ⟨differ, writtenA, writtenB⟩ unnamedA unnamedB same
  have generatedA := isGenerated_of_isWritten writtenA unnamedA
  have generatedB := isGenerated_of_isWritten writtenB unnamedB
  rw [← same] at generatedB
  obtain ⟨sameShown, sameNumber⟩ := generatedA.inj generatedB
  rcases differ with otherAttribute | otherPlace
  · obtain ⟨nameA, isA⟩ := isText inA
    obtain ⟨nameB, isB⟩ := isText inB
    rw [isA, isB] at sameShown otherAttribute
    exact otherAttribute (congrArg Value.text (Except.ok.inj sameShown))
  · exact otherPlace sameNumber

/-! ## Rules requested one after another -/

/-- A request for a rule: its kind, its attribute, and its arguments by name. -/
structure Request where
  kind : RuleKind
  field : Value
  arguments : Entries

namespace Request

/-- That a request gives its rule no name, or one that counts as none. -/
def Unnamed (r : Request) : Prop := (r.arguments.option "rule_name").truthy = false

/-- A request whose attribute can be shown, and whose arguments have texts as their names, of which
    none is the name of an argument that is given by its place. -/
structure Proper (r : Request) : Prop where
  shown : ∃ shown, r.field.display = .ok shown
  byName : ∀ entry ∈ r.arguments, ∃ name, entry.1 = .text name ∧ name ∉ ["self", "field_name"]

/-- The declaration that a request makes after so many others. -/
structure Makes (r : Request) (number : Nat) (d : Declaration) : Prop where
  kind : d.kind = r.kind
  about : d.field = r.field
  named : ¬r.Unnamed → d.name = r.arguments.option "rule_name"
  unnamed : r.Unnamed → IsGenerated r.field r.kind number d.name

end Request

/-- Declarations with those that some requests make one after another. -/
def requestAll (declared : List Declaration) (requests : List Request) :
    Except Fault (List Declaration) :=
  requests.foldlM (fun declared r => declareWith declared r.kind r.field r.arguments) declared

theorem declareWith_of_proper {r : Request} (proper : r.Proper) (declared : List Declaration) :
    ∃ d, declareWith declared r.kind r.field r.arguments = .ok (declared ++ [d]) ∧
      r.Makes declared.length d := by
  obtain ⟨shown, isShown⟩ := proper.shown
  obtain ⟨arguments, areArguments, accepted⟩ :=
    asArguments_besides ("RuleConfigBuilder." ++ r.kind.text) proper.byName
  have generated : generatedName r.field r.kind declared.length
      = .ok (shown ++ "_" ++ r.kind.text ++ "_" ++ toString declared.length) := by
    rw [generatedName, isShown]
    rfl
  unfold declareWith declare
  simp only [areArguments, accepted, Bind.bind, Except.bind]
  cases named : (r.arguments.option "rule_name").truthy with
  | true =>
    refine ⟨_, rfl, rfl, rfl, fun _ => rfl, fun unnamed => ?_⟩
    exact absurd (named.symm.trans unnamed) Bool.true_eq_false.mp
  | false =>
    simp only [generated]
    exact ⟨_, rfl, rfl, rfl, fun given => absurd named given, fun _ => ⟨_, generated, rfl⟩⟩

theorem requestAll_ok {requests : List Request} (proper : ∀ r ∈ requests, r.Proper)
    (declared : List Declaration) :
    ∃ declarations, requestAll declared requests = .ok (declared ++ declarations) ∧
      List.Forall₂ (fun r d => r.1.Makes r.2 d) (requests.zipIdx declared.length) declarations := by
  induction requests generalizing declared with
  | nil => exact ⟨[], by simp [requestAll, Pure.pure, Except.pure], .nil⟩
  | cons r rest ih =>
    obtain ⟨first, others⟩ := List.forall_mem_cons.mp proper
    obtain ⟨d, isMade, makes⟩ := declareWith_of_proper first declared
    obtain ⟨declarations, areMade, makeOthers⟩ := ih others (declared ++ [d])
    refine ⟨d :: declarations, ?_, ?_⟩
    · rw [requestAll, List.foldlM_cons, isMade]
      show requestAll (declared ++ [d]) rest = _
      rw [areMade, List.append_assoc, List.singleton_append]
    · rw [List.length_append, List.length_singleton] at makeOthers
      exact .cons makes makeOthers

theorem names_apart_among_requests {requests : List Request} {declarations : List Declaration}
    (makes : List.Forall₂ (fun r d => r.1.Makes r.2 d) requests.zipIdx declarations) :
    (requests.zip declarations).Pairwise fun a b =>
      a.1.Unnamed → b.1.Unnamed → a.2.name ≠ b.2.name := by
  have unnumbered : requests.zip declarations
      = (requests.zipIdx.zip declarations).map fun pair => (pair.1.1, pair.2) := by
    conv_lhs => rw [← List.zipIdx_map_fst 0 requests, List.zip_map_left]
    rfl
  rw [unnumbered, List.pairwise_map]
  refine (pairwise_zip makes (numbers_apart requests)).imp ?_
  rintro a b ⟨differ, makesA, makesB⟩ unnamedA unnamedB same
  have generated := makesB.unnamed unnamedB
  rw [← same] at generated
  exact differ ((makesA.unnamed unnamedA).inj generated).2

/-- No two rules share a generated name. In a well-formed document that is accepted, and in which
    attributes are texts, rules without a name have different names; and so have rules that are
    requested one after another, which they all are if the requests are proper ones. -/
theorem generated_names_differ :
    (∀ (document : Value) (declarations : List Declaration) (fields : Entries),
      document.WellFormed → ofDocument document = .ok declarations →
      document.part "rules" = .ok (.dict fields) →
      (∀ entry ∈ fields, ∃ name, entry.1 = .text name) →
      List.Forall₂ IsWritten (elementsIn fields) declarations ∧
        ((elementsIn fields).zip declarations).Pairwise fun a b =>
          Unnamed a.1 → Unnamed b.1 → a.2.name ≠ b.2.name) ∧
      ∀ requests : List Request, (∀ r ∈ requests, r.Proper) →
        ∃ declarations, requestAll [] requests = .ok declarations ∧
          List.Forall₂ (fun r d => r.1.Makes r.2 d) requests.zipIdx declarations ∧
          (requests.zip declarations).Pairwise fun a b =>
            a.1.Unnamed → b.1.Unnamed → a.2.name ≠ b.2.name := by
  constructor
  · intro document declarations fields formed loaded areRules named
    obtain ⟨fields', areRules', written⟩ := written_of_loaded loaded
    obtain rfl := Value.dict.inj (Except.ok.inj (areRules.symm.trans areRules'))
    exact ⟨written, names_apart_in_file written (attributes_once formed areRules named) named⟩
  · intro requests proper
    obtain ⟨declarations, areMade, makes⟩ := requestAll_ok proper []
    exact ⟨declarations, areMade, makes, names_apart_among_requests makes⟩

/-- A list of rules of some kinds, which says nothing else. -/
def rulesOf (kinds : List RuleKind) : Value :=
  .list (kinds.map fun kind => .dict [(.text "type", .text kind.text)])

/-- Rules on an attribute, and one on an attribute that is called what a rule on the first is
    named. -/
def underscored : Entries :=
  [(.text "a", rulesOf [.mustBe, .date]), (.text "a_must_be_0", rulesOf [.mustBe])]

/-- A rule that says nothing, of a name. -/
def plainRule (name : String) (kind : RuleKind) (field : String) : Declaration :=
  { name := .text name, kind, field := .text field, parameters := [],
    severity := .text "error", enabled := .bool true }

theorem wellFormed_rulesOf (kinds : List RuleKind) : (rulesOf kinds).WellFormed := by
  refine .list fun rule member => ?_
  obtain ⟨kind, _, rfl⟩ := List.mem_map.mp member
  have word : (Value.text kind.text).WellFormed := .atom rfl
  exact Value.wellFormed_of_words [("type", .text kind.text)] (by simp) (by simp [word])

theorem underscored_wellFormed : (Value.dict [(.text "rules", .dict underscored)]).WellFormed := by
  have fields : (Value.dict underscored).WellFormed :=
    Value.wellFormed_of_words [("a", rulesOf [.mustBe, .date]), ("a_must_be_0", rulesOf [.mustBe])]
      (by simp) (by simp [wellFormed_rulesOf])
  exact Value.wellFormed_of_words [("rules", .dict underscored)] (by simp) (by simp [fields])

/-- Requests on the same attributes, one of them with a name that counts as none. -/
def underscoredRequests : List Request :=
  [⟨.mustBe, .text "a", []⟩, ⟨.mustBe, .text "a_must_be_0", [(.text "rule_name", .text "")]⟩]

theorem underscored_names_differ :
    (∃ declarations, ofDocument (.dict [(.text "rules", .dict underscored)]) = .ok declarations ∧
      ((elementsIn underscored).zip declarations).Pairwise fun a b =>
        Unnamed a.1 → Unnamed b.1 → a.2.name ≠ b.2.name) ∧
    (∃ declarations, requestAll [] underscoredRequests = .ok declarations ∧
      (underscoredRequests.zip declarations).Pairwise fun a b =>
        a.1.Unnamed → b.1.Unnamed → a.2.name ≠ b.2.name) := by
  have loaded : ofDocument (.dict [(.text "rules", .dict underscored)])
      = .ok [plainRule "a_must_be_0" .mustBe "a", plainRule "a_date_1" .date "a",
        plainRule "a_must_be_0_must_be_0" .mustBe "a_must_be_0"] := by cbv
  have areRules : (Value.dict [(.text "rules", .dict underscored)]).part "rules"
      = .ok (.dict underscored) := by cbv
  have named : ∀ entry ∈ underscored, ∃ name, entry.1 = .text name := by
    simp [underscored]
  have proper : ∀ r ∈ underscoredRequests, r.Proper := by
    intro r member
    simp only [underscoredRequests, List.mem_cons, List.not_mem_nil, or_false] at member
    rcases member with rfl | rfl
    · exact ⟨⟨_, rfl⟩, by simp⟩
    · exact ⟨⟨_, rfl⟩, by simp⟩
  obtain ⟨inFiles, amongRequests⟩ := generated_names_differ
  obtain ⟨_, apart⟩ := inFiles _ _ _ underscored_wellFormed loaded areRules named
  obtain ⟨declarations, areMade, _, apartToo⟩ := amongRequests _ proper
  exact ⟨⟨_, loaded, apart⟩, declarations, areMade, apartToo⟩

end Declaration

end RecordRules
