import Mathlib
import RecordRules.Engine.Batch
import RecordRules.Proofs.Engine.Account
import RecordRules.Proofs.Rule.Notes

/-!
# Records of a batch

An engine does to each record of a batch what it does to that record alone (`validateEach_ok_iff`),
and to no other record (`HasRun`), so the order of a batch is of no consequence where every run
returns. A run that stops ends the batch with its fault: the records before it are done,
those after it are as they were (`stops_of_stops`). The engine itself writes how the batch
started and how it ended, and nothing else.
-/

namespace RecordRules

/-- The notes that do not only serve to find mistakes. -/
def announced (notes : List Note) : List Note := notes.filter fun note => note.level ≠ .debug

theorem announced_of_quiet {notes : List Note} (quiet : Quiet notes) : announced notes = [] := by
  rw [announced, List.filter_eq_nil_iff]
  intro note member
  simp [quiet note member]

/-- A list that is in relation to another one can be followed into another order. -/
theorem exists_zip_perm {α β : Type} {R : α → β → Prop} {xs others : List α} {ys : List β}
    (reordered : xs.Perm others) (related : List.Forall₂ R xs ys) :
    ∃ later, List.Forall₂ R others later ∧ (xs.zip ys).Perm (others.zip later) := by
  induction reordered generalizing ys with
  | nil => exact ⟨ys, related, .refl _⟩
  | cons x _ ih =>
    obtain ⟨y, rest, first, relatedRest, rfl⟩ := List.forall₂_cons_left_iff.mp related
    obtain ⟨later, relatedLater, same⟩ := ih relatedRest
    exact ⟨y :: later, .cons first relatedLater, same.cons (x, y)⟩
  | swap x y rest =>
    obtain ⟨v, _, first, relatedRest, rfl⟩ := List.forall₂_cons_left_iff.mp related
    obtain ⟨w, last, second, relatedLast, rfl⟩ := List.forall₂_cons_left_iff.mp relatedRest
    exact ⟨w :: v :: last, .cons second (.cons first relatedLast), .swap (x, w) (y, v) _⟩
  | trans _ _ ih ihLater =>
    obtain ⟨between, relatedBetween, same⟩ := ih related
    obtain ⟨later, relatedLater, sameLater⟩ := ihLater relatedBetween
    exact ⟨later, relatedLater, same.trans sameLater⟩

namespace Engine

variable {engine : Engine} {context : Context} {names : List String} {records : Records}

/-! ## A record alone -/

/-- What the run over the record of a name alone comes to. -/
def Alone (engine : Engine) (context : Context) (records : Records) (name : String)
    (validation : Validation) : Prop :=
  ∃ record, records.lookup name = some record ∧ engine.validate context record = validation

/-- The run over the record of a name alone returns an outcome. -/
def Returns (engine : Engine) (context : Context) (records : Records) (name : String)
    (outcome : Outcome) : Prop :=
  ∃ validation, Alone engine context records name validation ∧ validation.outcome = .ok outcome

/-- What a record comes to alone does not depend on the other records. -/
theorem alone_put_other {name other : String} (differ : other ≠ name) (record : Record)
    (validation : Validation) :
    Alone engine context (Named.put records name record) other validation ↔
      Alone engine context records other validation := by
  rw [Alone, Alone, Named.lookup_put_other records name record differ]

theorem forall₂_returns_put {name : String} {rest : List String} (apart : name ∉ rest)
    (record : Record) {outcomes : List Outcome} :
    List.Forall₂ (Returns engine context (Named.put records name record)) rest outcomes ↔
      List.Forall₂ (Returns engine context records) rest outcomes := by
  refine forall₂_congr_of_mem fun other member outcome => ?_
  simp only [Returns, alone_put_other (ne_of_mem_of_not_mem member apart)]

theorem quiet_alone {name : String} {validation : Validation}
    (alone : Alone engine context records name validation) : Quiet validation.notes := by
  obtain ⟨record, _, rfl⟩ := alone
  exact notes_validate_quiet engine context record

/-- A run that returns has passed just when it lists no failed rule. -/
theorem passed_of_returned {record : Record} {outcome : Outcome}
    (returned : (engine.validate context record).outcome = .ok outcome) :
    outcome.passed = outcome.failedRules.isEmpty := by
  obtain ⟨accounts, accounted⟩ := accounted_of_validate returned
  have tells := (validate_ok_iff_tells accounted).mp returned
  have counts := (tells.lists .failed).length_eq
  rw [tells.passed, Bool.eq_iff_iff, List.isEmpty_iff_length_eq_zero,
    List.isEmpty_iff_length_eq_zero, counts]
  rfl

/-- The record of a name is what its run alone leaves. -/
def Leaves (engine : Engine) (context : Context) (records after : Records) (name : String) : Prop :=
  ∃ validation, Alone engine context records name validation ∧
    after.lookup name = some validation.record

/-- The notes of the run over the record of a name alone. -/
def Writes (engine : Engine) (context : Context) (records : Records) (name : String)
    (notes : List Note) : Prop :=
  ∃ validation, Alone engine context records name validation ∧ validation.notes = notes

theorem quiet_of_writes {own : List (List Note)}
    (written : List.Forall₂ (Writes engine context records) names own) : Quiet own.flatten := by
  intro note member
  obtain ⟨notes, there, inNotes⟩ := List.mem_flatten.mp member
  obtain ⟨name, _, validation, alone, rfl⟩ := exists_of_mem_left written.flip notes there
  exact quiet_alone alone note inNotes

/-! ## One record after another -/

theorem validateEach_cons {name : String} {rest : List String} {record : Record}
    {outcome : Outcome} (found : records.lookup name = some record)
    (returned : (engine.validate context record).outcome = .ok outcome) :
    let first := engine.validate context record
    let others := engine.validateEach context rest (Named.put records name first.record)
    engine.validateEach context (name :: rest) records
      = ⟨others.records, first.notes ++ others.notes, others.outcome.map (outcome :: ·)⟩ := by
  simp only [validateEach, found, returned]

theorem validateEach_cons_of_stops {name : String} {rest : List String} {record : Record}
    {e : Fault} (found : records.lookup name = some record)
    (stopped : (engine.validate context record).outcome = .error e) :
    let first := engine.validate context record
    engine.validateEach context (name :: rest) records
      = ⟨Named.put records name first.record, first.notes, .error e⟩ := by
  simp only [validateEach, found, stopped]

/-- A batch that returns has found its first record and has run over it. -/
theorem first_of_returned {name : String} {rest : List String} {outcomes : List Outcome}
    (came : (engine.validateEach context (name :: rest) records).outcome = .ok outcomes) :
    ∃ record first others, records.lookup name = some record ∧
      (engine.validate context record).outcome = .ok first ∧
      (engine.validateEach context rest
        (Named.put records name (engine.validate context record).record)).outcome = .ok others ∧
      outcomes = first :: others := by
  cases found : records.lookup name with
  | none => simp [validateEach, found] at came
  | some record =>
    cases returned : (engine.validate context record).outcome with
    | error e => simp [validateEach_cons_of_stops found returned] at came
    | ok first =>
      rw [validateEach_cons found returned] at came
      obtain ⟨others, later, rfl⟩ := ok_map_iff.mp came
      exact ⟨record, first, others, rfl, returned, later, rfl⟩

/-- A batch returns just when the run over each of its records alone does. -/
theorem validateEach_ok_iff (distinct : names.Nodup) {outcomes : List Outcome} :
    (engine.validateEach context names records).outcome = .ok outcomes ↔
      List.Forall₂ (Returns engine context records) names outcomes := by
  induction names generalizing records outcomes with
  | nil => simp [validateEach, eq_comm]
  | cons name rest ih =>
    obtain ⟨apart, distinctRest⟩ := List.nodup_cons.mp distinct
    rw [List.forall₂_cons_left_iff]
    constructor
    · intro came
      obtain ⟨record, first, others, found, returned, later, rfl⟩ := first_of_returned came
      rw [ih distinctRest, forall₂_returns_put apart] at later
      exact ⟨first, others, ⟨_, ⟨record, found, rfl⟩, returned⟩, later, rfl⟩
    · rintro ⟨first, others, ⟨_, ⟨record, found, rfl⟩, returned⟩, later, rfl⟩
      rw [validateEach_cons found returned]
      rw [← forall₂_returns_put apart, ← ih distinctRest] at later
      exact ok_map_iff.mpr ⟨others, later, rfl⟩

/-! ## A batch that returns and one that stops -/

/-- What a batch has done over the records of some names, one after another: it has left each as
    its run alone leaves it and has written what that writes, and has changed no other record. -/
structure HasRun (engine : Engine) (context : Context) (records : Records) (names : List String)
    (each : BatchValidation) : Prop where
  left : ∀ name ∈ names, Leaves engine context records each.records name
  others : ∀ name ∉ names, each.records.lookup name = records.lookup name
  written : ∃ own, List.Forall₂ (Writes engine context records) names own ∧
    each.notes = own.flatten

theorem hasRun_nil (engine : Engine) (context : Context) (records : Records)
    (outcome : Except Fault (List Outcome)) :
    HasRun engine context records [] ⟨records, [], outcome⟩ :=
  ⟨by simp, fun _ _ => rfl, [], .nil, rfl⟩

/-- A batch that has run over its first record, and then over others, has run over all of them. -/
theorem hasRun_cons {name : String} {rest : List String} {record : Record} {others : BatchValidation}
    (apart : name ∉ rest) (found : records.lookup name = some record)
    (ran : HasRun engine context
      (Named.put records name (engine.validate context record).record) rest others)
    (outcome : Except Fault (List Outcome)) :
    HasRun engine context records (name :: rest)
      ⟨others.records, (engine.validate context record).notes ++ others.notes, outcome⟩ := by
  have alone : Alone engine context records name (engine.validate context record) :=
    ⟨record, found, rfl⟩
  refine ⟨fun other member => ?_, fun other apartAll => ?_, ?_⟩
  · rcases List.mem_cons.mp member with rfl | inRest
    · exact ⟨_, alone, (ran.others other apart).trans (Named.lookup_put records other _)⟩
    · obtain ⟨validation, aloneOther, left⟩ := ran.left other inRest
      rw [alone_put_other (ne_of_mem_of_not_mem inRest apart)] at aloneOther
      exact ⟨validation, aloneOther, left⟩
  · obtain ⟨differ, apartRest⟩ := List.ne_and_not_mem_of_not_mem_cons apartAll
    exact (ran.others other apartRest).trans (Named.lookup_put_other records name _ differ)
  · obtain ⟨own, written, notes⟩ := ran.written
    refine ⟨_ :: own, .cons ⟨_, alone, rfl⟩ ?_, by rw [notes, List.flatten_cons]⟩
    refine (forall₂_congr_of_mem fun other member notes => ?_).mp written
    simp only [Writes, alone_put_other (ne_of_mem_of_not_mem member apart)]

theorem hasRun_of_returned (distinct : names.Nodup) {outcomes : List Outcome}
    (came : (engine.validateEach context names records).outcome = .ok outcomes) :
    HasRun engine context records names (engine.validateEach context names records) := by
  induction names generalizing records outcomes with
  | nil => exact hasRun_nil engine context records _
  | cons name rest ih =>
    obtain ⟨apart, distinctRest⟩ := List.nodup_cons.mp distinct
    obtain ⟨record, first, others, found, returned, later, rfl⟩ := first_of_returned came
    rw [validateEach_cons found returned]
    exact hasRun_cons apart found (ih distinctRest later) _

/-- A batch stops with the fault of the first run that stops, after the runs before it. -/
theorem stops_of_stops {early late : List String} {name : String} {outcomes : List Outcome}
    {validation : Validation} {e : Fault} (distinct : (early ++ name :: late).Nodup)
    (returned : List.Forall₂ (Returns engine context records) early outcomes)
    (alone : Alone engine context records name validation)
    (stopped : validation.outcome = .error e) :
    (engine.validateEach context (early ++ name :: late) records).outcome = .error e ∧
      HasRun engine context records (early ++ [name])
        (engine.validateEach context (early ++ name :: late) records) := by
  induction early generalizing records outcomes with
  | nil =>
    obtain ⟨record, found, rfl⟩ := alone
    rw [List.nil_append, validateEach_cons_of_stops found stopped]
    have ran := hasRun_cons List.not_mem_nil found (hasRun_nil engine context _ (.error e))
      (.error e)
    rw [List.append_nil] at ran
    exact ⟨rfl, ran⟩
  | cons first rest ih =>
    obtain ⟨apart, distinctRest⟩ := List.nodup_cons.mp distinct
    obtain ⟨outcome, others, ⟨_, ⟨record, found, rfl⟩, came⟩, later, rfl⟩ :=
      List.forall₂_cons_left_iff.mp returned
    obtain ⟨apartRest, apartLate⟩ := not_or.mp (List.mem_append.not.mp apart)
    have differ : name ≠ first := (List.ne_of_not_mem_cons apartLate).symm
    obtain ⟨stops, ran⟩ := ih distinctRest ((forall₂_returns_put apartRest _).mpr later)
      ((alone_put_other differ _ _).mpr alone)
    rw [List.cons_append, validateEach_cons found came]
    refine ⟨by rw [stops]; rfl, hasRun_cons ?_ found ran _⟩
    simpa [apartRest] using differ.symm

/-! ## The notes of an engine -/

/-- The note on the start of a batch of some size. -/
def startNote (size : Nat) : Note :=
  ⟨.info, "Starting: Validating batch",
    [("operation", .text "Validating batch"), ("batch_size", .int size)]⟩

/-- The note on the end of a batch that returned. -/
def endNote (size : Nat) : Note :=
  ⟨.info, "Completed: Validating batch",
    [("operation", .text "Validating batch"), ("status", .text "success"),
      ("batch_size", .int size)]⟩

/-- The note on the end of a batch that a fault has stopped. -/
def faultNote (size : Nat) (e : Fault) : Note :=
  ⟨.error, "Failed: Validating batch",
    [("operation", .text "Validating batch"), ("status", .text "error"),
      ("error_type", .text e.family.name), ("error_message", .text e.message),
      ("batch_size", .int size)]⟩

/-- The note on how many records have failed rules. -/
def countNote (size failing : Nat) : Note :=
  ⟨.info, "Batch validated", [("batch_size", .int size), ("invalid_records", .int failing)]⟩

theorem batchNote_eq {outcomes : List Outcome}
    (returned : List.Forall₂ (Returns engine context records) names outcomes) :
    batchNote outcomes
      = countNote names.length (outcomes.countP fun outcome => !outcome.failedRules.isEmpty) := by
  have same : ∀ outcome ∈ outcomes, (!outcome.passed) = !outcome.failedRules.isEmpty := by
    intro outcome member
    obtain ⟨name, _, _, ⟨record, _, rfl⟩, came⟩ := exists_of_mem_left returned.flip outcome member
    rw [passed_of_returned came]
  rw [batchNote, countNote, returned.length_eq, ← List.countP_eq_length_filter,
    List.countP_congr fun outcome member => by rw [same outcome member]]

theorem notes_of_returned {outcomes : List Outcome}
    (returned : List.Forall₂ (Returns engine context records) names outcomes)
    (came : (engine.validateEach context names records).outcome = .ok outcomes) :
    (engine.validateBatch context names records).notes
      = startNote names.length :: ((engine.validateEach context names records).notes
        ++ [endNote names.length, countNote names.length
          (outcomes.countP fun outcome => !outcome.failedRules.isEmpty)]) := by
  rw [← batchNote_eq returned]
  simp only [validateBatch, came, Operation.started, Operation.ended, Operation.completed,
    Named.overriddenBy, startNote, endNote]
  rfl

theorem notes_of_stopped {e : Fault}
    (came : (engine.validateEach context names records).outcome = .error e) :
    (engine.validateBatch context names records).notes
      = startNote names.length :: ((engine.validateEach context names records).notes
        ++ [faultNote names.length e]) := by
  simp only [validateBatch, came, Operation.started, Operation.ended, Operation.failed,
    Named.overriddenBy, startNote, faultNote]
  rfl

/-- Of the notes of a batch, the engine has written those around the ones of its records. -/
theorem announced_around {own closing : List Note} {opening : Note} (quiet : Quiet own)
    (loud : announced (opening :: closing) = opening :: closing) :
    announced (opening :: (own ++ closing)) = opening :: closing := by
  have between := announced_of_quiet quiet
  unfold announced at *
  rw [← List.singleton_append, List.filter_append, List.filter_append, between, List.nil_append,
    ← List.filter_append, List.singleton_append, loud]

/-! ## Batches -/

/-- What a batch has come to that has run over some of its records: each of them is as its run alone
    leaves it, and every other record as it was. Between two notes of the engine, or a note and two,
    stand the notes of the runs alone, and those are not announced. -/
structure Ran (engine : Engine) (context : Context) (records : Records) (names : List String)
    (batch : BatchValidation) (opening : Note) (closing : List Note) : Prop where
  left : ∀ name ∈ names, Leaves engine context records batch.records name
  others : ∀ name ∉ names, batch.records.lookup name = records.lookup name
  written : ∃ own, List.Forall₂ (Writes engine context records) names own ∧
    batch.notes = opening :: (own.flatten ++ closing)
  announced : announced batch.notes = opening :: closing

theorem ran_of_hasRun {ranOver : List String} {opening : Note} {closing : List Note}
    (ran : HasRun engine context records ranOver (engine.validateEach context names records))
    (notes : (engine.validateBatch context names records).notes
      = opening :: ((engine.validateEach context names records).notes ++ closing))
    (loud : RecordRules.announced (opening :: closing) = opening :: closing) :
    Ran engine context records ranOver (engine.validateBatch context names records)
      opening closing := by
  obtain ⟨own, written, ownNotes⟩ := ran.written
  rw [ownNotes] at notes
  refine ⟨ran.left, ran.others, ⟨own, written, notes⟩, ?_⟩
  rw [notes]
  exact announced_around (quiet_of_writes written) loud

theorem completed_of_returned (distinct : names.Nodup) {outcomes : List Outcome}
    (came : (engine.validateBatch context names records).outcome = .ok outcomes) :
    List.Forall₂ (Returns engine context records) names outcomes ∧
      Ran engine context records names (engine.validateBatch context names records)
        (startNote names.length)
        [endNote names.length, countNote names.length
          (outcomes.countP fun outcome => !outcome.failedRules.isEmpty)] := by
  have cameEach : (engine.validateEach context names records).outcome = .ok outcomes := came
  have returned := (validateEach_ok_iff distinct).mp cameEach
  exact ⟨returned, ran_of_hasRun (hasRun_of_returned distinct cameEach)
    (notes_of_returned returned cameEach) rfl⟩

/-- Two batches over the same records leave the same records. -/
theorem lookup_of_ran {reordered : List String} {batch other : BatchValidation}
    {opening openingOther : Note} {closing closingOther : List Note}
    (same : names.Perm reordered) (ran : Ran engine context records names batch opening closing)
    (ranOther : Ran engine context records reordered other openingOther closingOther)
    (name : String) : other.records.lookup name = batch.records.lookup name := by
  by_cases member : name ∈ names
  · obtain ⟨_, ⟨record, found, rfl⟩, left⟩ := ran.left name member
    obtain ⟨_, ⟨again, foundAgain, rfl⟩, leftOther⟩ := ranOther.left name (same.mem_iff.mp member)
    obtain rfl := Option.some.inj (found.symm.trans foundAgain)
    rw [left, leftOther]
  · rw [ran.others name member, ranOther.others name fun there => member (same.mem_iff.mpr there)]

theorem returns_of_perm {reordered : List String} (distinct : names.Nodup)
    (same : names.Perm reordered) {outcomes : List Outcome}
    (came : (engine.validateBatch context names records).outcome = .ok outcomes) :
    ∃ later, (engine.validateBatch context reordered records).outcome = .ok later ∧
      (names.zip outcomes).Perm (reordered.zip later) ∧
      ∀ name, (engine.validateBatch context reordered records).records.lookup name
        = (engine.validateBatch context names records).records.lookup name := by
  obtain ⟨returned, ran⟩ := completed_of_returned distinct came
  obtain ⟨later, returnedLater, paired⟩ := exists_zip_perm same returned
  have distinctLater := same.nodup_iff.mp distinct
  have cameLater : (engine.validateBatch context reordered records).outcome = .ok later :=
    (validateEach_ok_iff distinctLater).mpr returnedLater
  obtain ⟨_, ranLater⟩ := completed_of_returned distinctLater cameLater
  exact ⟨later, cameLater, paired, lookup_of_ran same ran ranLater⟩

/-- A batch over different records returns just when the run over each of them alone does. Then its
    outcomes and the records afterwards are those of the runs alone, so in another order it has the
    same outcomes, in that order, and leaves the same records; it announces its start, its end and
    how many records have failed rules. If the first run that does not return stops with a fault,
    the batch stops with it: the records up to that one are as their runs alone leave them, all
    others as they were, and it announces its start and the fault. -/
theorem batch_is_independent (engine : Engine) (context : Context) (records : Records)
    (distinct : names.Nodup) :
    let batch := engine.validateBatch context names records
    ((∃ outcomes, batch.outcome = .ok outcomes) ↔
      ∀ name ∈ names, ∃ outcome, Returns engine context records name outcome) ∧
    (∀ outcomes, batch.outcome = .ok outcomes →
      List.Forall₂ (Returns engine context records) names outcomes ∧
      Ran engine context records names batch (startNote names.length)
        [endNote names.length, countNote names.length
          (outcomes.countP fun outcome => !outcome.failedRules.isEmpty)] ∧
      ∀ reordered, names.Perm reordered →
        ∃ later, (engine.validateBatch context reordered records).outcome = .ok later ∧
          (names.zip outcomes).Perm (reordered.zip later) ∧
          ∀ name, (engine.validateBatch context reordered records).records.lookup name
            = batch.records.lookup name) ∧
    ∀ early name late validation e, names = early ++ name :: late →
      (∀ before ∈ early, ∃ outcome, Returns engine context records before outcome) →
      Alone engine context records name validation → validation.outcome = .error e →
      batch.outcome = .error e ∧
        Ran engine context records (early ++ [name]) batch (startNote names.length)
          [faultNote names.length e] := by
  intro batch
  refine ⟨⟨?_, ?_⟩, ?_, ?_⟩
  · rintro ⟨outcomes, came⟩ name member
    obtain ⟨returned, _⟩ := completed_of_returned distinct came
    obtain ⟨outcome, _, returns⟩ := exists_of_mem_left returned name member
    exact ⟨outcome, returns⟩
  · intro returns
    obtain ⟨outcomes, returned⟩ := exists_forall₂ returns
    exact ⟨outcomes, (validateEach_ok_iff distinct).mpr returned⟩
  · intro outcomes came
    obtain ⟨returned, ran⟩ := completed_of_returned distinct came
    exact ⟨returned, ran, fun reordered same => returns_of_perm distinct same came⟩
  · rintro early name late validation e rfl returns alone stopped
    obtain ⟨outcomes, returned⟩ := exists_forall₂ returns
    obtain ⟨came, ran⟩ := stops_of_stops distinct returned alone stopped
    exact ⟨came, ran_of_hasRun ran (notes_of_stopped came) rfl⟩

/-- An engine with one rule: a start is to come before the limit that the record sets. -/
def startLimited : Engine where
  rules :=
    [{ name := .text "start", severity := .error, kind := .mustBe,
       rule := { field := .text "start",
                 options := [(.text "before", .field (.text "limit")),
                   (.text "rule_name", .text "start")] } }]

/-- A record that begins with the year and sets a limit. -/
def limitedBy (limit : Value) : Record where
  subject := ⟨"A-1", none, none, [("start", .date ⟨2024, 1, 1, by decide⟩), ("limit", limit)], none⟩
  errors := []
  warnings := []
  status := .pending

theorem limitedBatch_stops :
    let context : Context := ⟨.empty, ⟨⟨2024, 5, 1, by decide⟩, 0, none, by decide⟩⟩
    let last := limitedBy (.date ⟨2023, 1, 1, by decide⟩)
    let records : Records :=
      [("first", limitedBy (.date ⟨2025, 1, 1, by decide⟩)), ("second", limitedBy (.int 5)),
        ("last", last)]
    let batch := startLimited.validateBatch context ["first", "second", "last"] records
    let e := Fault.boundResolved "Field(name='limit')" "5"
    ["first", "second", "last"].Nodup ∧ batch.outcome = .error e ∧
      announced batch.notes = [startNote 3, faultNote 3 e] ∧
      batch.records.lookup "last" = some last := by
  intro context last records batch e
  have distinct : ["first", "second", "last"].Nodup := by decide
  obtain ⟨_, _, stops⟩ := batch_is_independent startLimited context records distinct
  have returned : (startLimited.validate context
      (limitedBy (.date ⟨2025, 1, 1, by decide⟩))).outcome
        = .ok ⟨"A-1", true, ["start"], [], [], [], []⟩ := by cbv
  have stopped : (startLimited.validate context (limitedBy (.int 5))).outcome = .error e := by cbv
  have returns : ∀ before ∈ ["first"], ∃ outcome,
      Returns startLimited context records before outcome := by
    intro before member
    obtain rfl := List.mem_singleton.mp member
    exact ⟨_, _, ⟨_, rfl, rfl⟩, returned⟩
  obtain ⟨came, ran⟩ :=
    stops ["first"] "second" ["last"] _ e rfl returns ⟨_, rfl, rfl⟩ stopped
  exact ⟨distinct, came, ran.announced, ran.others "last" (by decide)⟩

end Engine

end RecordRules
