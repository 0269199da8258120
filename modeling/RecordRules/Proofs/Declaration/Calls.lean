import RecordRules.Proofs.Declaration.Loading
import RecordRules.Proofs.Declaration.Notation

/-!
# Rules declared by calls and rules declared in a file

A rule can be declared by a call or written into a rule file. A list of calls, of which those on one
attribute follow each other, gives the same declarations as the file that lists the same rules
(`calls_as_written`).
-/

namespace RecordRules

namespace Declaration

/-! ## Calls, and the file that lists the same rules -/

/-- A call that declares a rule, with its name and with or without its severity. -/
structure Call where
  kind : RuleKind
  field : String
  name : String
  severity : Option Severity
  parameters : Entries

namespace Call

/-- The severity of a call, if it is given, as an entry. -/
def given (c : Call) : Entries :=
  match c.severity with
  | some severity => [(.text "severity", .text severity.text)]
  | none => []

/-- The arguments by name of a call. -/
def arguments (c : Call) : Entries := (.text "rule_name", .text c.name) :: c.given ++ c.parameters

/-- The entries that write the rule of a call down. -/
def entries (c : Call) : Entries :=
  (.text "type", .text c.kind.text) :: (.text "name", .text c.name)
    :: (c.given ++ [(.text "params", .dict (Notation.ofOptions c.parameters))])

/-- The rule of a call as an element of the list of its attribute. -/
def written (c : Call) : Value := .dict c.entries

/-- The declaration that a call makes. -/
def declaration (c : Call) : Declaration where
  name := .text c.name
  kind := c.kind
  field := .text c.field
  parameters := c.parameters
  severity := .text (c.severity.getD .error).text
  enabled := .bool true

/-- A call whose name is not empty, and whose parameters have names of their own and values that
    can be written. -/
structure Legal (c : Call) : Prop where
  named : c.name ≠ ""
  own : ∀ entry ∈ c.parameters, ∃ name, entry.1 = .text name ∧
    name ∉ ["self", "field_name", "rule_name", "severity"]
  expressible : ∀ entry ∈ c.parameters, Notation.ExpressibleOption entry.1 entry.2

end Call

/-- The declarations that some calls make, one after another. -/
def declareAll (calls : List Call) : Except Fault (List Declaration) :=
  calls.foldlM (fun declared c => declareWith declared c.kind (.text c.field) c.arguments) []

/-- The calls on an attribute. -/
def callsOn (field : String) (calls : List Call) : List Call :=
  calls.filter fun c => c.field = field

/-- The calls on other attributes. -/
def callsBeside (field : String) (calls : List Call) : List Call :=
  calls.filter fun c => !decide (c.field = field)

/-- The section of rules that lists the rules of some calls: under each attribute, in the order of
    the first call on it, the rules on it in the order of the calls. -/
def sectionOf : List Call → Entries
  | [] => []
  | c :: rest =>
    (.text c.field, .list ((c :: callsOn c.field rest).map Call.written))
      :: sectionOf (callsBeside c.field rest)
termination_by calls => calls.length
decreasing_by exact Nat.lt_succ_of_le (List.length_filter_le _ rest)

/-- The rule file that lists the rules of some calls. -/
def fileOf (calls : List Call) : Value := .dict [(.text "rules", .dict (sectionOf calls))]

/-- Between two calls on one attribute there is none on another. -/
def Together (calls : List Call) : Prop :=
  ∀ a b c : Call, [a, b, c].Sublist calls → a.field = c.field → b.field = a.field

/-! ## What a call declares -/

variable {c : Call} {calls : List Call}

/-- Texts are arguments by name, and a procedure takes those that it is not given by their place. -/
theorem asArguments_besides {entries : Entries} (procedure : String) {placed : List String}
    (free : ∀ entry ∈ entries, ∃ name, entry.1 = .text name ∧ name ∉ placed) :
    ∃ named, entries.asArguments = .ok named ∧
      Arguments.besides procedure placed named = .ok named := by
  have each : ∃ named, entries.asArguments = .ok named ∧ ∀ a ∈ named, a.1 ∉ placed := by
    induction entries with
    | nil => exact ⟨[], rfl, by simp⟩
    | cons entry rest ih =>
      obtain ⟨key, v⟩ := entry
      obtain ⟨name, rfl, apart⟩ := free (key, v) List.mem_cons_self
      obtain ⟨named, others, free⟩ := ih fun e member => free e (List.mem_cons_of_mem _ member)
      refine ⟨(name, v) :: named, ?_, List.forall_mem_cons.mpr ⟨apart, free⟩⟩
      exact ok_mapM_iff.mpr (.cons rfl (ok_mapM_iff.mp others))
  obtain ⟨named, isNamed, apart⟩ := each
  refine ⟨named, isNamed, ?_⟩
  unfold Arguments.besides
  split
  next found =>
    have member := List.mem_of_find?_eq_some found
    have isPlaced := List.find?_some found
    exact absurd (List.contains_iff_mem.mp isPlaced) (apart _ member)
  · rfl

namespace Call

theorem Legal.absent (legal : c.Legal) {name : String}
    (reserved : name ∈ ["self", "field_name", "rule_name", "severity"]) :
    ∀ entry ∈ c.parameters, entry.1 ≠ .text name := by
  intro entry member same
  obtain ⟨key, isKey, free⟩ := legal.own entry member
  rw [isKey, Value.text.injEq] at same
  exact free (same ▸ reserved)

theorem severity_given (c : Call) {others : Entries}
    (absent : Entries.get? others (.text "severity") = none) :
    (Entries.get? (c.given ++ others) (.text "severity")).getD (.text "error")
      = .text (c.severity.getD .error).text := by
  unfold given
  cases c.severity with
  | none => rw [List.nil_append, absent]; rfl
  | some severity => rw [List.cons_append, Entries.get?_cons_text, if_pos rfl]; rfl

theorem get?_given_append (c : Call) (others : Entries) {name : String} (other : "severity" ≠ name) :
    Entries.get? (c.given ++ others) (.text name) = Entries.get? others (.text name) := by
  unfold given
  cases c.severity with
  | none => rfl
  | some severity => rw [List.cons_append, Entries.get?_cons_text, if_neg other]; rfl

/-- Whether a key among the arguments of a call names its rule or gives its severity. -/
def isOwn (key : Value) : Bool :=
  Value.same (.text "rule_name") key || Value.same (.text "severity") key

theorem isOwn_iff {key : Value} :
    isOwn key = true ↔ key = .text "rule_name" ∨ key = .text "severity" := by
  rw [isOwn, Bool.or_eq_true, Value.same_text_iff, Value.same_text_iff, eq_comm,
    @eq_comm _ (Value.text "severity")]

theorem isOwn_of_given {entry : Value × Value} (member : entry ∈ c.given) :
    isOwn entry.1 = true := by
  unfold given at member
  split at member
  · rw [List.mem_singleton.mp member]
    exact isOwn_iff.mpr (.inr rfl)
  · cases member

theorem Legal.isOwn_of_parameter (legal : c.Legal) {entry : Value × Value}
    (member : entry ∈ c.parameters) : isOwn entry.1 = false := by
  rw [Bool.eq_false_iff, ne_eq, isOwn_iff]
  rintro (isName | isSeverity)
  · exact legal.absent (by simp) entry member isName
  · exact legal.absent (by simp) entry member isSeverity

/-- Without the name and the severity the arguments of a call are its parameters. -/
theorem Legal.arguments_others (legal : c.Legal) :
    (c.arguments.filter fun entry => !isOwn entry.1) = c.parameters := by
  have noGiven : (c.given.filter fun entry => !isOwn entry.1) = [] :=
    List.filter_eq_nil_iff.mpr fun entry member => by simp [isOwn_of_given member]
  have all : (c.parameters.filter fun entry => !isOwn entry.1) = c.parameters :=
    List.filter_eq_self.mpr fun entry member => by simp [legal.isOwn_of_parameter member]
  have named : isOwn (.text "rule_name") = true := isOwn_iff.mpr (.inl rfl)
  rw [arguments, List.filter_append, all, List.filter_cons_of_neg (by simp [named]), noGiven,
    List.nil_append]

/-- The attribute is given by its place alone. -/
theorem Legal.arguments_free (legal : c.Legal) :
    ∀ entry ∈ c.arguments, ∃ name, entry.1 = .text name ∧ name ∉ ["self", "field_name"] := by
  intro entry member
  by_cases own : isOwn entry.1 = true
  · rcases isOwn_iff.mp own with isName | isSeverity
    · exact ⟨"rule_name", isName, by simp⟩
    · exact ⟨"severity", isSeverity, by simp⟩
  · have isParameter : entry ∈ c.parameters := by
      rw [← legal.arguments_others]
      exact List.mem_filter.mpr ⟨member, by simpa using own⟩
    obtain ⟨name, isName, free⟩ := legal.own entry isParameter
    refine ⟨name, isName, fun placed => free ?_⟩
    exact List.mem_append_left ["rule_name", "severity"] placed

end Call

theorem declareWith_arguments (legal : c.Legal) (declared : List Declaration) :
    declareWith declared c.kind (.text c.field) c.arguments
      = .ok (declared ++ [c.declaration]) := by
  obtain ⟨named, isNamed, accepted⟩ :=
    asArguments_besides ("RuleConfigBuilder." ++ c.kind.text) legal.arguments_free
  have name : c.arguments.option "rule_name" = .text c.name := by
    rw [Entries.option, Call.arguments, List.cons_append, Entries.get?_cons_text, if_pos rfl]
    rfl
  have severity : (c.arguments.get? (.text "severity")).getD (.text "error")
      = .text (c.severity.getD .error).text := by
    rw [Call.arguments, List.cons_append, Entries.get?_cons_text, if_neg (by decide)]
    exact c.severity_given (Entries.get?_of_absent (legal.absent (by simp)))
  unfold declareWith
  dsimp only
  rw [isNamed]
  show (do let _ ← Arguments.besides _ _ named; declare _ _ _ _ _ _) = _
  rw [accepted, name, severity]
  show declare declared c.kind (.text c.field) (.text c.name) _
    (c.arguments.filter fun entry => !Call.isOwn entry.1) = _
  rw [legal.arguments_others]
  show declare declared c.kind (.text c.field) (.text c.name) _ c.parameters = _
  unfold declare
  rw [Value.truthy_text legal.named]
  rfl

/-! ## What the file declares -/

/-- Past the type, the name and the severity of a rule there are its options. -/
theorem Call.get?_entries (c : Call) {word : String} (notType : "type" ≠ word)
    (notName : "name" ≠ word) (notSeverity : "severity" ≠ word) :
    c.entries.get? (.text word)
      = if "params" = word then some (.dict (Notation.ofOptions c.parameters)) else none := by
  rw [entries, Entries.get?_cons_text, if_neg notType, Entries.get?_cons_text, if_neg notName,
    c.get?_given_append _ notSeverity, Entries.get?_cons_text, Entries.get?_nil]

/-- The entries of a rule say what its call declares. -/
theorem written_entries (legal : c.Legal) (index : Nat) :
    Written (.text c.field) index c.entries c.declaration := by
  have type : c.entries.get? (.text "type") = some (.text c.kind.text) := by
    rw [Call.entries, Entries.get?_cons_text, if_pos rfl]
  have name : c.entries.get? (.text "name") = some (.text c.name) := by
    rw [Call.entries, Entries.get?_cons_text, if_neg (by decide), Entries.get?_cons_text,
      if_pos rfl]
  have severity : (c.entries.get? (.text "severity")).getD (.text "error")
      = .text (c.severity.getD .error).text := by
    rw [Call.entries, Entries.get?_cons_text, if_neg (by decide), Entries.get?_cons_text,
      if_neg (by decide)]
    refine c.severity_given ?_
    rw [Entries.get?_cons_text, if_neg (by decide), Entries.get?_nil]
  have options : writtenOptions c.entries = .dict (Notation.ofOptions c.parameters) := by
    rw [writtenOptions, c.get?_entries (by decide) (by decide) (by decide), if_pos rfl]
    exact Value.orElse_dict _
  have enabled : c.entries.get? (.text "enabled") = none := by
    rw [c.get?_entries (by decide) (by decide) (by decide), if_neg (by decide)]
  constructor
  case kind => exact ⟨.text c.kind.text, type, RuleKind.ofValue?_iff.mpr rfl⟩
  case about => rfl
  case name => exact ⟨_, rfl, by rw [name]; rfl⟩
  case severity => exact severity.symm
  case known => exact ⟨c.severity.getD .error, Severity.ofValue?_iff.mpr rfl⟩
  case parameters =>
    rw [options]
    exact Notation.options_ofOptions legal.expressible
  case enabled => rw [enabled]; rfl

/-- The calls on one attribute, written down in its list, are read back. -/
theorem ofField_written {field : String} (legal : ∀ c ∈ calls, c.Legal)
    (about : ∀ c ∈ calls, c.field = field) :
    ofField (.text field) (.list (calls.map Call.written))
      = .ok (calls.map Call.declaration) := by
  have reading : ∀ index : Nat, ofElements (.text field) index (calls.map Call.written)
      = .ok (calls.map Call.declaration) := by
    induction calls with
    | nil => exact fun _ => rfl
    | cons c rest ih =>
      intro index
      have others := ih (fun other member => legal other (List.mem_cons_of_mem c member))
        (fun other member => about other (List.mem_cons_of_mem c member)) (index + 1)
      have first : ofElement (.text field) index c.written = .ok c.declaration := by
        rw [← about c List.mem_cons_self]
        exact ofElement_ok_iff.mpr
          ⟨c.entries, rfl, written_entries (legal c List.mem_cons_self) index⟩
      rw [List.map_cons, ofElements, first, others]
      rfl
  exact reading 0

/-! ## All calls -/

theorem declareAll_eq (legal : ∀ c ∈ calls, c.Legal) :
    declareAll calls = .ok (calls.map Call.declaration) := by
  -- The induction is on the calls still to be made, after any declarations.
  have declaring : ∀ declared : List Declaration,
      calls.foldlM (fun declared c => declareWith declared c.kind (.text c.field) c.arguments)
        declared = .ok (declared ++ calls.map Call.declaration) := by
    induction calls with
    | nil => simp [Pure.pure, Except.pure]
    | cons c rest ih =>
      intro declared
      have others := ih fun other member => legal other (List.mem_cons_of_mem c member)
      rw [List.foldlM_cons, declareWith_arguments (legal c List.mem_cons_self)]
      show List.foldlM _ _ rest = _
      rw [others, List.map_cons, List.append_assoc]
      rfl
  exact declaring []

theorem together_of_sublist {others : List Call} (together : Together calls)
    (sub : others.Sublist calls) : Together others :=
  fun a b c inOthers => together a b c (inOthers.trans sub)

/-- Those that have a property come first if none that has it comes after one that has not. -/
theorem filter_append_filter_not {α : Type} {p : α → Bool} {xs : List α}
    (first : xs.Pairwise fun a b => p b = true → p a = true) :
    xs.filter p ++ xs.filter (fun a => !p a) = xs := by
  induction first with
  | nil => rfl
  | @cons x rest earlier _ ih =>
    cases holds : p x with
    | true => simp [holds, ih]
    | false =>
      have none : rest.filter p = [] := List.filter_eq_nil_iff.mpr fun y member later =>
        Bool.false_ne_true (holds.symm.trans (earlier y member later))
      rw [none, List.nil_append] at ih
      simp [holds, none, ih]

/-- Among calls of which those on one attribute follow each other, those on the attribute of the
    first one come first. -/
theorem callsOn_append_callsBeside {rest : List Call} (together : Together (c :: rest)) :
    callsOn c.field rest ++ callsBeside c.field rest = rest := by
  refine filter_append_filter_not (List.pairwise_iff_forall_sublist.mpr fun {a b} sub holds => ?_)
  have same : b.field = c.field := of_decide_eq_true holds
  exact decide_eq_true (together c a b (sub.cons_cons c) same.symm)

/-- The rules in the section of some calls are what the calls declare, attribute by attribute. -/
theorem sectionOf_read (legal : ∀ c ∈ calls, c.Legal) (together : Together calls) :
    ∃ groups, List.Forall₂ (fun entry group => ofField entry.1 entry.2 = .ok group)
      (sectionOf calls) groups ∧ groups.flatten = calls.map Call.declaration := by
  -- The induction follows the attributes: the first call and those on its attribute, then the rest.
  induction calls using sectionOf.induct with
  | case1 => exact ⟨[], by rw [sectionOf]; exact .nil, rfl⟩
  | case2 c rest ih =>
    have apart := callsOn_append_callsBeside together
    have besideSub : (callsBeside c.field rest).Sublist (c :: rest) :=
      List.filter_sublist.trans (List.sublist_cons_self c rest)
    obtain ⟨groups, areGroups, all⟩ := ih
      (fun other member => legal other (besideSub.subset member))
      (together_of_sublist together besideSub)
    have own : ∀ other ∈ c :: callsOn c.field rest, other.Legal ∧ other.field = c.field := by
      refine List.forall_mem_cons.mpr ⟨⟨legal c List.mem_cons_self, rfl⟩, fun other member => ?_⟩
      obtain ⟨later, same⟩ := List.mem_filter.mp member
      exact ⟨legal other (List.mem_cons_of_mem c later), of_decide_eq_true same⟩
    have first := ofField_written (fun other member => (own other member).1)
      (fun other member => (own other member).2)
    refine ⟨(c :: callsOn c.field rest).map Call.declaration :: groups, ?_, ?_⟩
    · rw [sectionOf]
      exact .cons first areGroups
    · rw [List.flatten_cons, all, ← List.map_append, List.cons_append, apart]

/-- An attribute in the section of some calls is that of one of them. -/
theorem exists_call_of_mem_sectionOf {entry : Value × Value} (member : entry ∈ sectionOf calls) :
    ∃ c ∈ calls, entry.1 = .text c.field := by
  induction calls using sectionOf.induct with
  | case1 =>
    rw [sectionOf] at member
    cases member
  | case2 c rest ih =>
    rw [sectionOf] at member
    rcases List.mem_cons.mp member with rfl | later
    · exact ⟨c, List.mem_cons_self, rfl⟩
    · obtain ⟨other, inBeside, same⟩ := ih later
      exact ⟨other, List.mem_cons_of_mem c (List.mem_of_mem_filter inBeside), same⟩

/-- The section of some calls has each attribute once. -/
theorem nodup_sectionOf (calls : List Call) : ((sectionOf calls).map Prod.fst).Nodup := by
  induction calls using sectionOf.induct with
  | case1 =>
    rw [sectionOf]
    exact List.nodup_nil
  | case2 c rest ih =>
    rw [sectionOf, List.map_cons, List.nodup_cons]
    refine ⟨fun again => ?_, ih⟩
    obtain ⟨entry, later, sameKey⟩ := List.mem_map.mp again
    obtain ⟨other, inBeside, isField⟩ := exists_call_of_mem_sectionOf later
    have same : c.field = other.field := Value.text.inj (sameKey.symm.trans isField)
    have apart := (List.mem_filter.mp inBeside).2
    rw [same, decide_eq_true rfl] at apart
    cases apart

/-- Declaring rules by calls and writing them into a file come to the same: a list of calls, of
    which those on one attribute follow each other, makes just the declarations that are read from
    the file that lists the same rules. -/
theorem calls_as_written (calls : List Call) (legal : ∀ c ∈ calls, c.Legal)
    (together : Together calls) :
    ((sectionOf calls).map Prod.fst).Nodup ∧
      declareAll calls = .ok (calls.map Call.declaration) ∧
      ofDocument (fileOf calls) = declareAll calls := by
  have declared := declareAll_eq legal
  refine ⟨nodup_sectionOf calls, declared, ?_⟩
  obtain ⟨groups, areGroups, all⟩ := sectionOf_read legal together
  rw [declared, ← all]
  have areRules : (fileOf calls).part "rules" = .ok (.dict (sectionOf calls)) :=
    part_ok_iff.mpr ⟨_, rfl, by rw [Entries.get?_cons_text, if_pos rfl]⟩
  exact ofDocument_ok_iff.mpr ⟨sectionOf calls, groups, areRules, areGroups, rfl⟩

/-- The expression of a single sign. -/
def atSign : Pattern where
  source := "@"
  node := .sequence (.one { negated := false, items := [.single 64], mode := {} }) .empty
  mode := {}

/-- Two rules on one attribute and one on another, with an expression and a question within lists,
    conditions, and bounds in a word and as an attribute. -/
def mixedCalls : List Call := [
  { kind := .mustBe, field := "email", name := "address", severity := none,
    parameters := [(.text "one_of", .list [.pattern atSign, .list [.method (.text "known")]]),
      (.text "when", .dict [(.text "salary", .sentinel .present)])] },
  { kind := .mustBe, field := "email", name := "other", severity := some .warning,
    parameters := [(.text "equal_to", .field (.text "login")), (.text "message", .text "differs")] },
  { kind := .date, field := "start", name := "begun", severity := some .error,
    parameters := [(.text "before", .sentinel .today), (.text "after", .field (.text "birthday")),
      (.text "allow_blank", .bool true)] }]

open Notation in
theorem mixedCalls_legal : ∀ c ∈ mixedCalls, c.Legal := by
  have other {name : String} (apart : name ≠ "before" ∧ name ≠ "after" ∧ name ≠ "when")
      (notMatching : name ≠ "matching") {v : Value} (expressible : Expressible v) :
      ExpressibleOption (.text name) v :=
    .operand apart (fun matching => absurd matching notMatching) expressible
  have choices : Expressible (.list [.pattern atSign, .list [.method (.text "known")]]) := by
    have compiled : Pattern.compile atSign.source = .ok atSign := rfl
    refine .list fun v member => ?_
    simp only [List.mem_cons, List.not_mem_nil, or_false] at member
    rcases member with rfl | rfl
    · exact .pattern compiled
    · exact .list fun v member => List.mem_singleton.mp member ▸ .method "known"
  have conditions : ExpressibleOption (.text "when")
      (.dict [(.text "salary", .sentinel .present)]) :=
    .conditions fun entry member => List.mem_singleton.mp member ▸ .present
  have before : ExpressibleOption (.text "before") (.sentinel .today) := .bound (.inl rfl) .today
  have after : ExpressibleOption (.text "after") (.field (.text "birthday")) :=
    .bound (.inr rfl) (.operand (.field "birthday") (by simp))
  refine List.forall_mem_cons.mpr ⟨⟨by decide, by simp, ?_⟩, List.forall_mem_cons.mpr
    ⟨⟨by decide, by simp, ?_⟩, List.forall_mem_singleton.mpr ⟨by decide, by simp, ?_⟩⟩⟩
  · simpa using ⟨other (by decide) (by decide) choices, conditions⟩
  · simpa using ⟨other (by decide) (by decide) (.field "login"),
      other (by decide) (by decide) (.scalar rfl)⟩
  · simpa using ⟨before, after, other (by decide) (by decide) (.scalar rfl)⟩

theorem mixedCalls_as_written :
    declareAll mixedCalls = .ok (mixedCalls.map Call.declaration) ∧
      ofDocument (fileOf mixedCalls) = .ok (mixedCalls.map Call.declaration) := by
  have together : Together mixedCalls := by
    intro a b c sub same
    obtain ⟨rfl, rfl, rfl⟩ : a = _ ∧ b = _ ∧ c = _ := by
      simpa [mixedCalls] using sub.eq_of_length rfl
    exact absurd same (by decide)
  obtain ⟨_, declared, read⟩ := calls_as_written mixedCalls mixedCalls_legal together
  exact ⟨declared, read.trans declared⟩

end Declaration

end RecordRules
