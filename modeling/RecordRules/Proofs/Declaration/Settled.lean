import RecordRules.Proofs.Declaration.Calls
import RecordRules.Proofs.Rule.Bound

/-!
# Settled options

Options are settled if no notation is left in them: none where operands are read, and no text as a
bound or an expression. Reading leaves settled options under the keys that there were, and settled
options are just those that it leaves as they are (`options_eq_self_iff`); so to read a second time
changes nothing (`options_settle`).
-/

namespace RecordRules

namespace Notation

/-! ## Values without notation -/

/-- Whether a value is the notation of an operand: a mapping with one entry, under one of four
    words. -/
def isNotation : Value → Bool
  | .dict [(.text tag, _)] => ["field", "pattern", "method", "is"].contains tag
  | _ => false

/-- That a value lies in another: it is this itself or, in a list, lies in a member. -/
inductive LiesIn (part : Value) : Value → Prop where
  | itself : LiesIn part part
  | member {items : List Value} {item : Value} (member : item ∈ items) (deeper : LiesIn part item) :
      LiesIn part (.list items)

/-- That no notation lies in a value. -/
def Bare (v : Value) : Prop := ∀ part, LiesIn part v → isNotation part = false

theorem bare_list_iff {items : List Value} : Bare (.list items) ↔ ∀ v ∈ items, Bare v := by
  constructor
  · intro bare v member part deeper
    exact bare part (.member member deeper)
  · intro each part lies
    cases lies with
    | itself => rfl
    | member member deeper => exact each _ member part deeper

/-- Nothing but itself lies in a value that is no list. -/
theorem bare_iff_of_no_list {v : Value} (noList : ∀ items, v ≠ .list items) :
    Bare v ↔ isNotation v = false := by
  constructor
  · intro bare
    exact bare v .itself
  · intro none part lies
    cases lies with
    | itself => exact none
    | member => exact absurd rfl (noList _)

theorem exists_of_isNotation {v : Value} (isOne : isNotation v = true) :
    ∃ tag argument, v = .dict [(.text tag, argument)] := by
  unfold isNotation at isOne
  split at isOne
  next tag argument => exact ⟨tag, argument, rfl⟩
  next => cases isOne

/-! ## What operands are read as -/

/-- What notation and texts are read as: references, questions, expressions, words and dates. -/
def isMade : Value → Bool
  | .field _ | .method _ | .pattern _ | .sentinel _ | .date _ | .moment _ => true
  | _ => false

theorem bare_of_isMade {v : Value} (made : isMade v = true) : Bare v := by
  cases v with
  | field | method | pattern | sentinel | date | moment =>
    exact (bare_iff_of_no_list (by simp)).mpr rfl
  | _ => cases made

theorem ne_text_of_isMade {v : Value} (made : isMade v = true) (s : String) : v ≠ .text s := by
  rintro rfl
  cases made

theorem isMade_of_pattern {source : String} {v : Value} (compiled : pattern source = .ok v) :
    isMade v = true := by
  obtain ⟨_, _, rfl⟩ := ok_map_iff.mp (ok_mapError_iff.mp compiled)
  rfl

theorem tagged?_eq_none_iff {tag : String} {argument : Value} :
    tagged? tag argument = none ↔ isNotation (.dict [(.text tag, argument)]) = false := by
  unfold tagged?
  split
  · simp [isNotation]
  · simp [isNotation]
  · simp [isNotation]
  · simp [isNotation]
  next notField notPattern notMethod notIs =>
    simpa [isNotation] using ⟨notField, notPattern, notMethod, notIs⟩

theorem isMade_of_tagged {tag : String} {argument v : Value}
    (given : tagged? tag argument = some (.ok v)) : isMade v = true := by
  unfold tagged? at given
  split at given
  · obtain ⟨_, _, isField⟩ := ok_bind_iff.mp (Option.some.inj given)
    rw [← ok_pure_iff.mp isField]
    rfl
  · obtain ⟨_, _, compiled⟩ := ok_bind_iff.mp (Option.some.inj given)
    exact isMade_of_pattern compiled
  · obtain ⟨_, _, isMethod⟩ := ok_bind_iff.mp (Option.some.inj given)
    rw [← ok_pure_iff.mp isMethod]
    rfl
  · obtain ⟨_, _, isCondition⟩ := ok_bind_iff.mp (Option.some.inj given)
    unfold condition at isCondition
    split at isCondition
    · rw [← Except.ok.inj isCondition]
      rfl
    · rw [← Except.ok.inj isCondition]
      rfl
    · cases isCondition
  · cases given

/-- What is no list and no notation stands for itself. -/
theorem operand_of_not_isNotation {v : Value} (noList : ∀ items, v ≠ .list items)
    (none : isNotation v = false) : operand v = .ok v := by
  unfold operand
  split
  next items => exact absurd rfl (noList items)
  next tag argument => rw [tagged?_eq_none_iff.mpr none, Option.getD_none]
  next => rfl

/-- A value that is no list is either made into something else or read as itself. -/
theorem operand_cases {v w : Value} (noList : ∀ items, v ≠ .list items)
    (read : operand v = .ok w) : isMade w = true ∨ isNotation v = false ∧ w = v := by
  cases found : isNotation v with
  | false =>
    rw [operand_of_not_isNotation noList found] at read
    exact .inr ⟨rfl, (Except.ok.inj read).symm⟩
  | true =>
    obtain ⟨tag, argument, rfl⟩ := exists_of_isNotation found
    rw [operand] at read
    cases stands : tagged? tag argument with
    | none =>
      rw [tagged?_eq_none_iff.mp stands] at found
      cases found
    | some outcome =>
      rw [stands, Option.getD_some] at read
      exact .inl (isMade_of_tagged (stands.trans (congrArg some read)))

theorem bare_of_operand_of_no_list {v w : Value} (noList : ∀ items, v ≠ .list items)
    (read : operand v = .ok w) : Bare w := by
  rcases operand_cases noList read with made | ⟨none, rfl⟩
  · exact bare_of_isMade made
  · exact (bare_iff_of_no_list noList).mpr none

/-- Only a text is read as a text. -/
theorem text_of_operand {v : Value} {s : String} (read : operand v = .ok (.text s)) :
    v = .text s := by
  by_cases isList : ∃ items, v = .list items
  · obtain ⟨items, rfl⟩ := isList
    rw [operand] at read
    obtain ⟨_, _, same⟩ := ok_bind_iff.mp read
    cases ok_pure_iff.mp same
  · rcases operand_cases (not_exists.mp isList) read with made | ⟨_, same⟩
    · cases made
    · exact same.symm

mutual

/-- No notation lies in what was read. -/
theorem bare_of_operand (v : Value) {w : Value} (read : operand v = .ok w) : Bare w := by
  cases v with
  | list items =>
    rw [operand] at read
    obtain ⟨found, areRead, isList⟩ := ok_bind_iff.mp read
    obtain rfl := ok_pure_iff.mp isList
    exact bare_list_iff.mpr (bare_of_operands items areRead)
  | _ => exact bare_of_operand_of_no_list (by simp) read

theorem bare_of_operands (items : List Value) {found : List Value}
    (read : operands items = .ok found) : ∀ w ∈ found, Bare w := by
  cases items with
  | nil =>
    obtain rfl := Except.ok.inj read
    simp
  | cons v rest =>
    rw [operands] at read
    obtain ⟨first, isFirst, afterFirst⟩ := ok_bind_iff.mp read
    obtain ⟨others, areOthers, all⟩ := ok_bind_iff.mp afterFirst
    obtain rfl := ok_pure_iff.mp all
    exact List.forall_mem_cons.mpr ⟨bare_of_operand v isFirst, bare_of_operands rest areOthers⟩

end

mutual

/-- A value in which no notation lies stands for itself. -/
theorem operand_of_bare (v : Value) (bare : Bare v) : operand v = .ok v := by
  cases v with
  | list items =>
    rw [operand, operands_of_bare items (bare_list_iff.mp bare)]
    rfl
  | _ => exact operand_of_not_isNotation (by simp) (bare _ .itself)

theorem operands_of_bare (items : List Value) (bare : ∀ v ∈ items, Bare v) :
    operands items = .ok items := by
  cases items with
  | nil => rfl
  | cons v rest =>
    obtain ⟨first, others⟩ := List.forall_mem_cons.mp bare
    rw [operands, operand_of_bare v first, operands_of_bare rest others]
    rfl

end

/-! ## Options -/

/-- The operands that an option holds: its conditions if it is the one for these, else its value. -/
def operandsIn (key v : Value) : List Value :=
  match key, v with
  | .text "when", .dict conditions => conditions.map Prod.snd
  | .text "when", _ => []
  | _, v => [v]

/-- The options whose value is read in another way if it is a text. -/
def readsText (key : Value) : Prop :=
  key = .text "before" ∨ key = .text "after" ∨ key = .text "matching"

/-- An option without notation: none lies in its operands, it is no text if texts would be read, and
    conditions are a mapping. -/
structure Settled (key v : Value) : Prop where
  bare : ∀ operand ∈ operandsIn key v, Bare operand
  noText : readsText key → ∀ s, v ≠ .text s
  conditions : key = .text "when" → ∃ conditions, v = .dict conditions

theorem operandsIn_of_ne {key : Value} (notWhen : key ≠ .text "when") (v : Value) :
    operandsIn key v = [v] := by
  unfold operandsIn
  split
  next => exact absurd rfl notWhen
  next => exact absurd rfl notWhen
  next => rfl

/-- An option that is not the one for conditions has its value as its only operand. -/
theorem settled_iff_of_ne {key v : Value} (notWhen : key ≠ .text "when") :
    Settled key v ↔ Bare v ∧ (readsText key → ∀ s, v ≠ .text s) := by
  constructor
  · rintro ⟨bare, noText, _⟩
    rw [operandsIn_of_ne notWhen] at bare
    exact ⟨bare v List.mem_cons_self, noText⟩
  · rintro ⟨bare, noText⟩
    refine ⟨?_, noText, fun isWhen => absurd isWhen notWhen⟩
    rw [operandsIn_of_ne notWhen]
    exact List.forall_mem_singleton.mpr bare

theorem settled_when_iff {v : Value} :
    Settled (.text "when") v ↔
      ∃ conditions : Entries, v = .dict conditions ∧ ∀ entry ∈ conditions, Bare entry.2 := by
  constructor
  · rintro ⟨bare, _, isMapping⟩
    obtain ⟨conditions, rfl⟩ := isMapping rfl
    exact ⟨conditions, rfl, fun entry member => bare _ (List.mem_map_of_mem member)⟩
  · rintro ⟨conditions, rfl, bare⟩
    refine ⟨fun operand member => ?_, fun texts => by simp [readsText] at texts, fun _ => ⟨_, rfl⟩⟩
    obtain ⟨entry, inside, rfl⟩ := List.mem_map.mp member
    exact bare entry inside

theorem isMade_of_bound {s : String} {v : Value} (read : bound (.text s) = .ok v) :
    isMade v = true := by
  unfold bound at read
  split at read
  · rw [← Except.ok.inj read]
    rfl
  · rw [← Except.ok.inj read]
    rfl
  · have isDate := Value.isDate_of_readDate read
    cases v with
    | date | moment => rfl
    | _ => cases isDate
  next noText => exact absurd rfl (noText s)

/-- A bound is not read as a text, and no notation lies in what it is read as. -/
theorem settled_of_bound {v w : Value} (read : bound v = .ok w) : Bare w ∧ ∀ s, w ≠ .text s := by
  cases v with
  | text s =>
    have made := isMade_of_bound read
    exact ⟨bare_of_isMade made, ne_text_of_isMade made⟩
  | _ =>
    rw [bound_of_noText (by simp)] at read
    refine ⟨bare_of_operand _ read, ?_⟩
    rintro s rfl
    cases text_of_operand read

/-- Reading settles an option. -/
theorem settled_of_option {key v w : Value} (read : option key v = .ok w) : Settled key w := by
  unfold option at read
  split at read
  · obtain ⟨bare, noText⟩ := settled_of_bound read
    exact (settled_iff_of_ne (by simp)).mpr ⟨bare, fun _ => noText⟩
  · obtain ⟨bare, noText⟩ := settled_of_bound read
    exact (settled_iff_of_ne (by simp)).mpr ⟨bare, fun _ => noText⟩
  · have made := isMade_of_pattern read
    exact (settled_iff_of_ne (by simp)).mpr ⟨bare_of_isMade made, fun _ => ne_text_of_isMade made⟩
  next conditions =>
    obtain ⟨found, areRead, isMapping⟩ := ok_bind_iff.mp read
    obtain rfl := ok_pure_iff.mp isMapping
    refine settled_when_iff.mpr ⟨found, rfl, fun entry member => ?_⟩
    obtain ⟨_, _, _, isRead⟩ := exists_of_mem_left (mapEntries_ok_iff.mp areRead).flip entry member
    exact bare_of_operand _ isRead
  · cases read
  next notBefore notAfter notWhen notMatching _ =>
    refine (settled_iff_of_ne notWhen).mpr ⟨bare_of_operand v read, ?_⟩
    rintro texts s rfl
    obtain rfl := text_of_operand read
    exact texts.elim notBefore (·.elim notAfter fun isMatching => notMatching s isMatching rfl)

/-- A settled option is read as it is. -/
theorem option_of_settled {key v : Value} (settled : Settled key v) : option key v = .ok v := by
  by_cases isWhen : key = .text "when"
  · subst isWhen
    obtain ⟨conditions, rfl, bare⟩ := settled_when_iff.mp settled
    have read : mapEntries (fun _ => operand) conditions = .ok conditions := by
      rw [mapEntries_ok_iff, List.forall₂_same]
      exact fun entry member => ⟨rfl, operand_of_bare entry.2 (bare entry member)⟩
    exact ok_bind_iff.mpr ⟨conditions, read, rfl⟩
  · obtain ⟨bare, noText⟩ := (settled_iff_of_ne isWhen).mp settled
    have itself := operand_of_bare v bare
    unfold option
    split
    · rw [bound_of_noText (noText (.inl rfl)), itself]
    · rw [bound_of_noText (noText (.inr (.inl rfl))), itself]
    · exact absurd rfl (noText (.inr (.inr rfl)) _)
    · exact absurd rfl isWhen
    · exact absurd rfl isWhen
    · exact itself

/-! ## All options -/

variable {entries parameters : Entries}

theorem options_ok_iff :
    options (.dict entries) = .ok parameters ↔
      List.Forall₂ (fun e p => e.1 = p.1 ∧ option e.1 e.2 = .ok p.2) entries parameters := by
  rw [options, mapEntries_ok_iff]

/-- Just the settled options are read as they are. -/
theorem options_eq_self_iff :
    options (.dict parameters) = .ok parameters ↔
      ∀ entry ∈ parameters, Settled entry.1 entry.2 := by
  rw [options_ok_iff, List.forall₂_same]
  constructor
  · intro each entry member
    exact settled_of_option (each entry member).2
  · intro settled entry member
    exact ⟨rfl, option_of_settled (settled entry member)⟩

/-- Options that have been read have the keys that were written, in their order; they are settled,
    and reading them again leaves them as they are. -/
theorem options_settle (read : options (.dict entries) = .ok parameters) :
    parameters.map Prod.fst = entries.map Prod.fst ∧
      (∀ entry ∈ parameters, Settled entry.1 entry.2) ∧
      options (.dict parameters) = .ok parameters := by
  have each := options_ok_iff.mp read
  have keys : entries.map Prod.fst = parameters.map Prod.fst := by
    rw [← List.forall₂_eq_eq_eq, List.forall₂_map_left_iff, List.forall₂_map_right_iff]
    exact each.imp fun _ _ same => same.1
  have settled : ∀ entry ∈ parameters, Settled entry.1 entry.2 := by
    intro entry member
    obtain ⟨written, _, sameKey, isRead⟩ := exists_of_mem_left each.flip entry member
    rw [← sameKey]
    exact settled_of_option isRead
  exact ⟨keys.symm, settled, options_eq_self_iff.mpr settled⟩

/-- Options in which every kind of notation stands: within lists, as conditions, and as bounds and
    an expression in texts. -/
def notedOptions : Entries := [
  (.text "one_of", .list [.dict [(.text "field", .text "login")],
    .list [.dict [(.text "method", .text "known")], .dict [(.text "other", .null)]]]),
  (.text "when", .dict [(.text "salary", .dict [(.text "is", .text "present")]),
    (.text "bonus", .list [.dict [(.text "pattern", .text "@")]])]),
  (.text "before", .text "today"),
  (.text "after", .text "2024-02-29"),
  (.text "matching", .text "@")]

/-- The same options as they are read. -/
def readOptions : Entries := [
  (.text "one_of", .list [.field (.text "login"),
    .list [.method (.text "known"), .dict [(.text "other", .null)]]]),
  (.text "when", .dict [(.text "salary", .sentinel .present),
    (.text "bonus", .list [.pattern Declaration.atSign])]),
  (.text "before", .sentinel .today),
  (.text "after", .date ⟨2024, 2, 29, by decide⟩),
  (.text "matching", .pattern Declaration.atSign)]

theorem notedOptions_settle :
    options (.dict notedOptions) = .ok readOptions ∧
      (∀ entry ∈ readOptions, Settled entry.1 entry.2) ∧
      options (.dict readOptions) = .ok readOptions := by
  have read : options (.dict notedOptions) = .ok readOptions := rfl
  exact ⟨read, (options_settle read).2⟩

end Notation

end RecordRules
