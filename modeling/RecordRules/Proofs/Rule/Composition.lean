import RecordRules.Proofs.Rule.Checks
import RecordRules.Proofs.Rule.Message
import RecordRules.Proofs.Value.Lookup

/-!
# The composition of a message

The checks of a rule edit its message one after another, and a membership or a date bound throws
away what was there before. What is left in the end can be told from the options and the record
(`composition`): first words or a sentence, a clause for each comparison, the conditions, and the
lists of values.
-/

namespace RecordRules

/-! ## What a message is composed of -/

namespace Comparator

/-- A key with spaces for underscores. -/
def spaced (key : String) : String :=
  String.ofList (key.toList.map fun c => if c = '_' then ' ' else c)

/-- What a message says of the value that an operand stands for: an expression between slashes, or a
    text. A reference is said by its name. -/
def saying (c : Comparator) : Value → Except Fault String
  | .field name => name.nameText
  | .pattern p => .ok ("/" ++ p.source ++ "/")
  | v => do
    let text ← v.display
    return if c = matching then "/" ++ text ++ "/" else text

/-- What a message says of an operand: the name of the attribute that it refers to, or what is said
    of the value that it stands for. -/
def displayed (c : Comparator) (subject : Subject) (operand : Value) : Except Fault String :=
  match operand with
  | .field name => name.nameText
  | operand => do c.saying (← subject.resolve operand)

/-- The comparisons of a rule with their operands, in the order of the options. -/
def asked (options : Entries) : List (Comparator × Value) :=
  options.filterMap fun (key, operand) => (ofKey? key).map (·, operand)

/-- The clause for a comparison. -/
def clauseFor (subject : Subject) (comparison : Comparator × Value) : Except Fault String := do
  return " " ++ spaced comparison.1.name ++ " " ++ (← comparison.1.displayed subject comparison.2)

end Comparator

namespace Condition

/-- The clauses for conditions that all hold, each with what its condition leaves of the value. -/
def clausesFor (subject : Subject) : Entries → Except Fault (List String)
  | [] => .ok []
  | (name, condition) :: rest => do
    let left := left condition (← subject.read name)
    return (← clause name condition left) :: (← clausesFor (subject.leave name left) rest)

/-- What a message says of the conditions of a rule: nothing if there are none. -/
def sayingOf (subject : Subject) (conditions : Value) : Except Fault String :=
  match conditions with
  | .dict (first :: rest) => do
    return " when " ++ " and ".intercalate (← clausesFor subject (first :: rest))
  | _ => .ok ""

end Condition

namespace MustBe

/-- The sentence of an option, where it is given. -/
def sentenceOf (options : Entries) (name : String) (sentence : Value → Except Fault String) :
    Except Fault (List String) :=
  match options.option name with
  | .null => .ok []
  | v => do return [← sentence v]

/-- The sentence about a value that fails a bound. -/
def boundSentence (scene : Scene) (d : Direction) (bound : Value) : Except Fault String := do
  let asReceived ← scene.subject.received scene.field
  return ": " ++ (← Bound.shown asReceived) ++ " is not a valid value."
    ++ (← Bound.describe scene.subject bound d)

/-- The sentence about a value with members that are not among those it may have. -/
def membersSentence (scene : Scene) : Except Fault String := do
  return ": " ++ (← Value.displayAll scene.value.asSequence) ++ " is not a valid value"

/-- The sentences of the memberships and bounds that are given, in the order in which they replace
    one another. -/
def sentences (options : Entries) (scene : Scene) : Except Fault (List String) := do
  return (← sentenceOf options "one_of" fun _ => notValid scene.value)
    ++ (← sentenceOf options "not_any_of" fun _ => notValid scene.value)
    ++ (← sentenceOf options "only_from" fun _ => membersSentence scene)
    ++ (← [Direction.before, .after].mapM fun d =>
        sentenceOf options d.text (boundSentence scene d)).flatten

/-- The words for the escapes that a rule offers. -/
def escapes (options : Entries) : List String :=
  (if (options.option "blank").truthy then [" blank"] else [])
    ++ (if (options.option "present").truthy then [" present"] else [])

/-- What a message begins with: the last of the sentences that replace it, or its first words with
    the escapes if there is none. -/
def base (options : Entries) (scene : Scene) : Except Fault String := do
  return (← sentences options scene).getLast?.getD ("must be" ++ String.join (escapes options))

/-- The message of a rule that fails on a scene. -/
def composition (options : Entries) (scene : Scene) : Except Fault String := do
  return (← base options scene)
    ++ String.join (← (Comparator.asked options).mapM (Comparator.clauseFor scene.subject))
    ++ (← Condition.sayingOf scene.subject (options.option "when"))
    ++ (← valueLists options) ++ "."

end MustBe

/-! ## The clauses of checks that are not met -/

namespace Comparator

theorem words_eq_spaced (c : Comparator) : c.words = spaced c.name := by
  cases c <;> decide

theorem display_of_asPattern {v : Value} {p : Pattern} (read : v.asPattern = .ok p) :
    v = .pattern p ∨ v.display = .ok p.source := by
  unfold Value.asPattern at read
  split at read
  · exact .inl (congrArg _ (Except.ok.inj read))
  · obtain ⟨source, shown, compiled⟩ := ok_bind_iff.mp read
    rw [shown, Pattern.source_of_compile (ok_mapError_iff.mp compiled)]
    exact .inr rfl

theorem saying_of_matching {resolved : Value} {p : Pattern} (read : resolved.asPattern = .ok p)
    (noName : ∀ name, resolved ≠ .field name) :
    matching.saying resolved = .ok ("/" ++ p.source ++ "/") := by
  rcases display_of_asPattern read with rfl | displays
  · rfl
  · unfold saying
    split
    next name => exact absurd rfl (noName name)
    next q =>
      obtain rfl := Except.ok.inj read
      rfl
    · simp only [displays]
      rfl

theorem saying_of_describe {c : Comparator} {resolved : Value} (other : c ≠ matching) :
    c.saying resolved = resolved.describe := by
  unfold saying Value.describe
  split
  · rfl
  · rfl
  · simp only [other, reduceIte, bind_pure]

theorem displayed_of_shown {c : Comparator} {subject : Subject} {operand resolved shown : Value}
    {text : String} (resolves : subject.resolve operand = .ok resolved)
    (shows : c.shown operand resolved = .ok shown) (describes : shown.describe = .ok text) :
    c.displayed subject operand = .ok text := by
  unfold Comparator.shown at shows
  split at shows
  · obtain rfl := Except.ok.inj shows
    exact describes
  next noReference =>
    obtain rfl := Except.ok.inj shows
    unfold displayed
    split
    next name => exact absurd rfl (noReference name)
    · rw [resolves]
      exact describes
  next noReference noName =>
    unfold displayed
    split
    next name => exact absurd rfl (noReference name)
    · rw [resolves]
      split at shows
      next isMatching =>
        obtain ⟨p, read, same⟩ := ok_bind_iff.mp shows
        obtain rfl := ok_pure_iff.mp same
        obtain rfl := Except.ok.inj describes
        rw [isMatching]
        exact saying_of_matching read noName
      next notMatching =>
        obtain rfl := ok_pure_iff.mp shows
        exact (saying_of_describe notMatching).trans describes

theorem clause_cases {c : Comparator} {operand resolved : Value} {text : String}
    (clauseIs : c.clause operand resolved = .ok text) :
    ∃ shown described, c.shown operand resolved = .ok shown ∧ shown.describe = .ok described ∧
      text = " " ++ spaced c.name ++ " " ++ described := by
  obtain ⟨shown, shows, rest⟩ := ok_bind_iff.mp clauseIs
  obtain ⟨described, describes, same⟩ := ok_bind_iff.mp rest
  obtain rfl := ok_pure_iff.mp same
  exact ⟨shown, described, shows, describes, by rw [words_eq_spaced]⟩

end Comparator

namespace MustBe

variable {options : Entries} {scene : Scene} {edits : List Edit}

theorem comparisons_eq_asked (options : Entries) :
    comparisons options = (Comparator.asked options).map fun (c, operand) =>
      .comparison c operand := by
  unfold comparisons Comparator.asked
  rw [List.map_filterMap]
  congr 1
  funext ⟨key, operand⟩
  dsimp only
  cases Comparator.ofKey? key <;> rfl

/-- Comparisons that are not met leave their clauses in order. -/
theorem clauses_of_allLeave {asked : List (Comparator × Value)}
    (left : AllLeave scene (asked.map fun (c, operand) => .comparison c operand) edits) :
    ∃ clauses, asked.mapM (Comparator.clauseFor scene.subject) = .ok clauses ∧
      edits = clauses.map .append := by
  induction asked generalizing edits with
  | nil =>
    cases left
    exact ⟨[], rfl, rfl⟩
  | cons comparison rest ih =>
    cases left with
    | cons unmet leaves later =>
      obtain ⟨resolved, text, resolves, clauseIs, rfl⟩ := leaves
      obtain ⟨shown, described, shows, describes, rfl⟩ := Comparator.clause_cases clauseIs
      obtain ⟨clauses, clausesAre, rfl⟩ := ih later
      have first : Comparator.clauseFor scene.subject comparison = .ok _ :=
        ok_bind_iff.mpr ⟨described, Comparator.displayed_of_shown resolves shows describes, rfl⟩
      exact ⟨_ :: clauses, ok_mapM_iff.mpr (.cons first (ok_mapM_iff.mp clausesAre)), rfl⟩

theorem clausesFor_of_clauses {subject : Subject} {conditions : Entries} {texts : List String}
    (clauses : Condition.Clauses subject conditions texts) :
    Condition.clausesFor subject conditions = .ok texts := by
  induction clauses with
  | nil => rfl
  | @cons subject condition rest text texts first later ih =>
    obtain ⟨name, condition⟩ := condition
    obtain ⟨current, read, _, clauseIs⟩ := first
    rw [Condition.after_of_read read] at ih
    refine ok_bind_iff.mpr ⟨current, read, ok_bind_iff.mpr ⟨text, clauseIs, ?_⟩⟩
    exact ok_bind_iff.mpr ⟨texts, ih, rfl⟩

/-- Conditions that all hold leave one clause, if there are any. -/
theorem saying_of_leaves {conditions : Value}
    (leaves : (Check.conditions conditions).Leaves scene edits) :
    ∃ clauses : List String,
      Condition.sayingOf scene.subject conditions = .ok (String.join clauses) ∧
        edits = clauses.map .append := by
  cases conditions with
  | dict entries =>
    obtain ⟨texts, clauses, rfl⟩ := leaves
    have said := clausesFor_of_clauses clauses
    cases clauses with
    | nil => exact ⟨[], rfl, rfl⟩
    | @cons _ condition rest text others first later =>
      refine ⟨[" when " ++ " and ".intercalate (text :: others)], ?_, rfl⟩
      rw [String.join_cons, String.join_nil, String.append_empty]
      exact ok_bind_iff.mpr ⟨_, said, rfl⟩
  | _ => exact leaves.elim

theorem allLeave_singleton {check : Check} (left : AllLeave scene [check] edits) :
    check.Leaves scene edits := by
  cases left with
  | cons unmet leaves later =>
    cases later
    rwa [List.append_nil]

theorem allLeave_ifGiven {name : String} {make : Value → Check}
    (left : AllLeave scene (ifGiven options name make) edits) :
    options.option name = .null ∧ edits = [] ∨
      options.option name ≠ .null ∧ (make (options.option name)).Leaves scene edits := by
  unfold ifGiven at left
  split at left
  next isNull =>
    cases left
    exact .inl ⟨isNull, rfl⟩
  next there => exact .inr ⟨there, allLeave_singleton left⟩

/-- An option whose check is not met leaves its sentence, where it is given. -/
theorem sentenceOf_of_allLeave {name : String} {make : Value → Check}
    {sentence : Value → Except Fault String}
    (leave : ∀ values own, (make values).Leaves scene own →
      ∃ text, sentence values = .ok text ∧ own = [.replace text])
    (left : AllLeave scene (ifGiven options name make) edits) :
    ∃ texts, sentenceOf options name sentence = .ok texts ∧ edits = texts.map .replace := by
  unfold sentenceOf
  rcases allLeave_ifGiven left with ⟨isNull, rfl⟩ | ⟨there, leaves⟩
  · exact ⟨[], by rw [isNull], rfl⟩
  · obtain ⟨text, isText, rfl⟩ := leave _ _ leaves
    refine ⟨[text], ?_, rfl⟩
    split
    next isNull => exact absurd isNull there
    · exact ok_bind_iff.mpr ⟨text, isText, rfl⟩

theorem boundSentence_of_rejects {asReceived : Value} {withTime : Bool} {d : Direction}
    {bound : Value} {failure : String}
    (received : scene.subject.received scene.field = .ok asReceived)
    (rejects : Rejects scene asReceived withTime (d, bound) failure) :
    boundSentence scene d bound = .ok failure := by
  obtain ⟨resolved, _, rest⟩ := ok_bind_iff.mp rejects
  split at rest
  · cases ok_pure_iff.mp rest
  · obtain ⟨shown, shows, rest⟩ := ok_bind_iff.mp rest
    obtain ⟨clause, describes, same⟩ := ok_bind_iff.mp rest
    obtain rfl := Option.some.inj (ok_pure_iff.mp same)
    refine ok_bind_iff.mpr ⟨asReceived, received, ok_bind_iff.mpr ⟨shown, shows, ?_⟩⟩
    exact ok_bind_iff.mpr ⟨clause, describes, rfl⟩

/-- Bounds that are all failed leave their sentences in order. -/
theorem boundSentences_of_rejects {asReceived : Value} {withTime : Bool} {sides : List Direction}
    {failures : List String} (received : scene.subject.received scene.field = .ok asReceived)
    (rejected : List.Forall₂ (Rejects scene asReceived withTime)
      (sides.filterMap fun d =>
        match options.option d.text with
        | .null => none
        | bound => some (d, bound)) failures) :
    ∃ texts, (sides.mapM fun d => sentenceOf options d.text (boundSentence scene d)) = .ok texts ∧
      failures = texts.flatten := by
  induction sides generalizing failures with
  | nil =>
    cases rejected
    exact ⟨[], rfl, rfl⟩
  | cons d rest ih =>
    rw [List.filterMap_cons] at rejected
    split at rejected
    next notGiven =>
      obtain ⟨texts, textsAre, rfl⟩ := ih rejected
      have nothing : sentenceOf options d.text (boundSentence scene d) = .ok [] := by
        unfold sentenceOf
        split at notGiven
        · rfl
        · cases notGiven
      exact ⟨[] :: texts, ok_mapM_iff.mpr (.cons nothing (ok_mapM_iff.mp textsAre)), rfl⟩
    next bound given =>
      cases rejected with
      | @cons _ failure _ others first later =>
        obtain ⟨texts, textsAre, rfl⟩ := ih later
        have one : sentenceOf options d.text (boundSentence scene d) = .ok [failure] := by
          unfold sentenceOf
          split at given
          · cases given
          · obtain rfl := Option.some.inj given
            exact ok_bind_iff.mpr ⟨failure, boundSentence_of_rejects received first, rfl⟩
        exact ⟨[failure] :: texts, ok_mapM_iff.mpr (.cons one (ok_mapM_iff.mp textsAre)), rfl⟩

/-- An escape that is offered but not taken leaves its words. -/
theorem escape_of_allLeave {offered : Bool} {check : Check} {words : String}
    (leave : ∀ own, check.Leaves scene own → own = [.append words])
    (left : AllLeave scene (if offered then [check] else []) edits) :
    edits = (if offered then [words] else []).map .append := by
  cases offered with
  | true => exact leave edits (allLeave_singleton left)
  | false =>
    cases left
    rfl

/-- Memberships and bounds none of which is met leave their sentences in order. -/
theorem sentences_of_allLeave {ones others members bounds : List Edit} {withTime : Bool}
    (oneOf : AllLeave scene (ifGiven options "one_of" .oneOf) ones)
    (notAnyOf : AllLeave scene (ifGiven options "not_any_of" .notAnyOf) others)
    (onlyFrom : AllLeave scene (ifGiven options "only_from" .onlyFrom) members)
    (window : AllLeave scene [.window (givenBounds options) withTime] bounds) :
    ∃ replacing : List String, sentences options scene = .ok replacing ∧
      ones ++ others ++ members ++ bounds = replacing.map .replace := by
  have leaveOne : ∀ values own, (Check.oneOf values).Leaves scene own →
      ∃ text, notValid scene.value = .ok text ∧ own = [.replace text] := fun _ _ leaves => leaves
  have leaveOther : ∀ values own, (Check.notAnyOf values).Leaves scene own →
      ∃ text, notValid scene.value = .ok text ∧ own = [.replace text] := fun _ _ leaves => leaves
  have leaveMembers : ∀ values own, (Check.onlyFrom values).Leaves scene own →
      ∃ text, membersSentence scene = .ok text ∧ own = [.replace text] := by
    rintro values own ⟨shown, shows, rfl⟩
    exact ⟨_, ok_bind_iff.mpr ⟨shown, shows, rfl⟩, rfl⟩
  obtain ⟨first, firstIs, rfl⟩ := sentenceOf_of_allLeave leaveOne oneOf
  obtain ⟨second, secondIs, rfl⟩ := sentenceOf_of_allLeave leaveOther notAnyOf
  obtain ⟨third, thirdIs, rfl⟩ := sentenceOf_of_allLeave leaveMembers onlyFrom
  obtain ⟨asReceived, failures, received, rejected, rfl⟩ := allLeave_singleton window
  obtain ⟨texts, textsAre, rfl⟩ := boundSentences_of_rejects received rejected
  refine ⟨first ++ second ++ third ++ texts.flatten, ?_, by simp only [List.map_append]⟩
  simp only [sentences, firstIs, secondIs, thirdIs, textsAre]
  rfl

/-- The edits of a rule none of whose checks is met: it appends the escapes, replaces the message by
    one sentence after another, and appends the clauses. -/
theorem edits_of_allLeave (left : AllLeave scene (checks options) edits) :
    ∃ replacing comparing applying : List String, sentences options scene = .ok replacing ∧
      (Comparator.asked options).mapM (Comparator.clauseFor scene.subject) = .ok comparing ∧
      Condition.sayingOf scene.subject (options.option "when") = .ok (String.join applying) ∧
      edits = (escapes options).map .append ++ replacing.map .replace ++ comparing.map .append
        ++ applying.map .append := by
  unfold checks at left
  -- The checks are taken from the end, one option at a time, down to the two escapes.
  obtain ⟨_, whens, left₇, conditions, rfl⟩ := allLeave_append left
  obtain ⟨_, clauses, left₆, compared, rfl⟩ := allLeave_append left₇
  obtain ⟨_, bounds, left₅, window, rfl⟩ := allLeave_append left₆
  obtain ⟨_, members, left₄, onlyFrom, rfl⟩ := allLeave_append left₅
  obtain ⟨_, others, left₃, notAnyOf, rfl⟩ := allLeave_append left₄
  obtain ⟨_, ones, left₂, oneOf, rfl⟩ := allLeave_append left₃
  obtain ⟨blanks, presents, blank, present, rfl⟩ := allLeave_append left₂
  obtain ⟨replacing, sentencesAre, replaced⟩ := sentences_of_allLeave oneOf notAnyOf onlyFrom window
  rw [comparisons_eq_asked] at compared
  obtain ⟨comparing, clausesAre, rfl⟩ := clauses_of_allLeave compared
  have applied : ∃ applying : List String,
      Condition.sayingOf scene.subject (options.option "when") = .ok (String.join applying) ∧
        whens = applying.map .append := by
    rcases allLeave_ifGiven conditions with ⟨isNull, rfl⟩ | ⟨_, leaves⟩
    · exact ⟨[], by rw [isNull]; rfl, rfl⟩
    · exact saying_of_leaves leaves
  obtain ⟨applying, sayingIs, rfl⟩ := applied
  have leaveBlank : ∀ own, Check.blank.Leaves scene own → own = [.append " blank"] :=
    fun _ leaves => leaves
  have leavePresent : ∀ own, Check.present.Leaves scene own → own = [.append " present"] :=
    fun _ leaves => leaves
  have blanksAre := escape_of_allLeave leaveBlank blank
  have presentsAre := escape_of_allLeave leavePresent present
  refine ⟨replacing, comparing, applying, sentencesAre, clausesAre, sayingIs, ?_⟩
  rw [← replaced, blanksAre, presentsAre, escapes]
  simp only [List.map_append, List.append_assoc]

/-- A rule that is judged to fail, and has no message of its own, composes it from its options. -/
theorem composition_of_judge {message : Value}
    (judged : (judge options scene).outcome = .ok (some message))
    (plain : (options.option "message").truthy = false) :
    ∃ text, composition options scene = .ok text ∧ message = .text text := by
  rcases judge_cases judged with ⟨impossible, _⟩ | ⟨edits, lists, left, listsAre, same⟩
  · cases impossible
  obtain ⟨replacing, comparing, applying, sentencesAre, clausesAre, sayingIs, rfl⟩ :=
    edits_of_allLeave left
  have baseIs : base options scene
      = .ok (replacing.getLast?.getD ("must be" ++ String.join (escapes options))) :=
    ok_bind_iff.mpr ⟨replacing, sentencesAre, rfl⟩
  refine ⟨_, ok_bind_iff.mpr ⟨_, baseIs, ok_bind_iff.mpr ⟨_, clausesAre,
    ok_bind_iff.mpr ⟨_, sayingIs, ok_bind_iff.mpr ⟨lists, listsAre, rfl⟩⟩⟩⟩, ?_⟩
  rw [Option.some.inj same, Value.orElse, if_neg (by simp [plain])]
  simp only [List.foldl_append, Message.finish, Message.append, Message.text_of_appends,
    Message.text_of_replacements]
  rfl

/-- The entry of a rule that fails and has no message of its own says what is composed of its
    options. -/
theorem message_is_composition {context : Context} {rule : Rule} {subject : Subject} {value : Value}
    (failed : (run context rule subject value).outcome = .ok false)
    (plain : (rule.options.option "message").truthy = false) :
    ∃ collection entry, (run context rule subject value).filed = [(collection, entry)] ∧
      composition rule.options (sceneOf context rule subject value) = .ok entry.message := by
  have ran := ran_of_yields (Run.yields_of_ok failed)
  generalize (run context rule subject value).filed = filed at ran
  cases ran with
  | @failed message filed on judged files text =>
    obtain ⟨composed, compositionIs, rfl⟩ := composition_of_judge judged plain
    obtain rfl := Except.ok.inj text
    exact ⟨filed.1, filed.2, rfl, compositionIs⟩

/-- A rule on the day of a start, which is to come before a given day and after an end. -/
def startRule : Rule where
  field := .text "start"
  options :=
    [(.text "blank", .bool true), (.text "greater_than", .field (.text "end")),
      (.text "before", .date ⟨2024, 5, 1, by decide⟩),
      (.text "when", .dict [(.text "kind", .sentinel .present)])]

theorem startRule_message :
    let context : Context := ⟨.empty, ⟨⟨2024, 5, 1, by decide⟩, 0, none, by decide⟩⟩
    let subject : Subject := ⟨"A-1", none, none, [("start", .text "2024-06-01"),
      ("end", .date ⟨2024, 7, 1, by decide⟩), ("kind", .text "exam")], none⟩
    ∃ collection entry,
      (run context startRule subject (.date ⟨2024, 6, 1, by decide⟩)).filed
        = [(collection, entry)] ∧
      entry.message = ": 2024-06-01 is not a valid value. Date cannot be after 2024-05-01"
        ++ " greater than end when kind is present." := by
  intro context subject
  have failed : (run context startRule subject (.date ⟨2024, 6, 1, by decide⟩)).outcome
      = .ok false := by
    simp only [run, startRule, Rule.name, Rule.destination, Rule.level, Entries.option,
      Entries.get?_cons_text, Entries.get?_nil, judge, checks, ifGiven, givenBounds, valueLists,
      listed]
    rfl
  have plain : (startRule.options.option "message").truthy = false := by
    simp only [startRule, Entries.option, Entries.get?_cons_text, Entries.get?_nil]
    rfl
  obtain ⟨collection, entry, filed, composed⟩ := message_is_composition failed plain
  refine ⟨collection, entry, filed, Except.ok.inj (composed.symm.trans ?_)⟩
  simp only [composition, base, sentences, sentenceOf, escapes, valueLists, listed, startRule,
    Entries.option, Entries.get?_cons_text, Entries.get?_nil]
  rfl

end MustBe

end RecordRules
