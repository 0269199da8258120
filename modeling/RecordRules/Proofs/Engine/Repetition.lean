import RecordRules.Proofs.Engine.Concatenation

/-!
# Running an engine again

What the rules of an engine come to depends on the subject of a record, not on its entries or its
status, and gentle rules leave the subject as it was. So a second run over a record comes to what the
first one came to and files the same entries after those that are there (`record_of_accounted`): the
messages of its outcome begin with all that were there before. A record that is cleared in between
holds the entries of one run (`repetition_appends_again`).
-/

namespace RecordRules

namespace Engine

variable {engine : Engine} {context : Context} {record other : Record} {accounts : List Account}
  {outcome first second : Outcome}

/-- The record with the entries and the status that a run with some accounts leaves. -/
def settled (record : Record) (accounts : List Account) : Record where
  subject := record.subject
  errors := record.errors ++ entriesFor .errors accounts
  warnings := record.warnings ++ entriesFor .warnings accounts
  status := if (ofStanding accounts .failed).isEmpty then .valid else .invalid

/-- Gentle rules leave a record with the subject that it had. -/
theorem subject_of_gentle (gentle : ∀ i ∈ engine.rules, i.rule.Gentle)
    (accounted : Accounted context record.subject engine.rules accounts) :
    (engine.validate context record).record.subject = record.subject := by
  rw [subject_validate accounted, foldl_left_of_gentle gentle]

/-- The accounts of a run say all that becomes of the record. -/
theorem record_of_accounted (gentle : ∀ i ∈ engine.rules, i.rule.Gentle)
    (accounted : Accounted context record.subject engine.rules accounts) :
    (engine.validate context record).record = settled record accounts := by
  have subject := subject_of_gentle gentle accounted
  have errors := entries_validate accounted .errors
  have warnings := entries_validate accounted .warnings
  have status := status_validate accounted
  generalize (engine.validate context record).record = after at *
  obtain ⟨_, _, _, _⟩ := after
  simp only [Record.entries] at errors warnings
  simp only [settled, Record.mk.injEq]
  exact ⟨subject, errors, warnings, status⟩

/-- An outcome that says of the rules what another one says. -/
structure Repeats (first second : Outcome) : Prop where
  id : second.record = first.record
  passed : second.passed = first.passed
  lists : ∀ s, second.rulesOf s = first.rulesOf s

theorem repeats_of_tells (same : other.subject = record.subject)
    (tells : Tells record accounts first) (again : Tells other accounts second) :
    Repeats first second where
  id := by rw [again.id, tells.id, same]
  passed := by rw [again.passed, tells.passed]
  lists s := names_unique (again.lists s) (tells.lists s)

/-- A run that returned returns over any record with the same subject, and says the same of the
    rules. -/
theorem returns_again (gentle : ∀ i ∈ engine.rules, i.rule.Gentle)
    (same : other.subject = record.subject)
    (accounted : Accounted context record.subject engine.rules accounts)
    (returned : (engine.validate context record).outcome = .ok first) :
    ∃ second, (engine.validate context other).outcome = .ok second ∧ Repeats first second ∧
      (engine.validate context other).record = settled other accounts ∧
      second.messages = fullMessages (other.errors ++ entriesFor .errors accounts) := by
  have tells := (validate_ok_iff_tells accounted).mp returned
  have accountedAgain : Accounted context other.subject engine.rules accounts := same ▸ accounted
  obtain ⟨second, again⟩ : ∃ second, Tells other accounts second :=
    exists_tells_iff.mpr (exists_tells_iff.mp ⟨first, tells⟩)
  exact ⟨second, (validate_ok_iff_tells accountedAgain).mpr again, repeats_of_tells same tells again,
    record_of_accounted gentle accountedAgain, again.messages⟩

/-- A second run of gentle rules over the record that a run left repeats its verdict, its lists and its
    status and files the same entries again, after those that are there, and so its messages follow
    all earlier ones. Over the record with both collections cleared it leaves just the entries of one
    run. -/
theorem repetition_appends_again (gentle : ∀ i ∈ engine.rules, i.rule.Gentle)
    (returned : (engine.validate context record).outcome = .ok first) :
    let once := (engine.validate context record).record
    let twice := engine.validate context once
    let anew := engine.validate context ((once.clear .errors).clear .warnings)
    ∃ errors warnings,
      once.errors = record.errors ++ errors ∧ once.warnings = record.warnings ++ warnings ∧
      first.messages = fullMessages once.errors ∧
      (∃ second, twice.outcome = .ok second ∧ Repeats first second ∧
        twice.record
          = { once with errors := once.errors ++ errors, warnings := once.warnings ++ warnings } ∧
        second.messages = first.messages ++ fullMessages errors) ∧
      ∃ third, anew.outcome = .ok third ∧ Repeats first third ∧
        anew.record = { once with errors := errors, warnings := warnings } ∧
        third.messages = fullMessages errors := by
  intro once twice anew
  obtain ⟨accounts, accounted⟩ := accounted_of_validate returned
  have messages := ((validate_ok_iff_tells accounted).mp returned).messages
  have onceIs : once = settled record accounts := record_of_accounted gentle accounted
  have same : once.subject = record.subject := subject_of_gentle gentle accounted
  have sameCleared : ((once.clear .errors).clear .warnings).subject = record.subject := same
  obtain ⟨second, returnedTwice, repeats, recordTwice, messagesTwice⟩ :=
    returns_again gentle same accounted returned
  obtain ⟨third, returnedAnew, repeatsAnew, recordAnew, messagesAnew⟩ :=
    returns_again gentle sameCleared accounted returned
  refine ⟨entriesFor .errors accounts, entriesFor .warnings accounts, by rw [onceIs]; rfl,
    by rw [onceIs]; rfl, by rw [messages, onceIs]; rfl, ?_, ?_⟩
  · refine ⟨second, returnedTwice, repeats, ?_, ?_⟩
    · rw [recordTwice, onceIs]
      rfl
    · rw [messagesTwice, messages, onceIs]
      exact List.map_append
  · refine ⟨third, returnedAnew, repeatsAnew, ?_, messagesAnew⟩
    rw [recordAnew, onceIs]
    rfl

theorem startRequired_repeated :
    let context : Context := ⟨.empty, ⟨⟨2024, 5, 1, by decide⟩, 0, none, by decide⟩⟩
    let noted : Entry := ⟨"end", "must be present.", []⟩
    let record : Record := ⟨⟨"A-1", none, none, [], none⟩, [noted], [], .valid⟩
    let once := (startRequired.validate context record).record
    let start : Entry := ⟨"start", "must be present.", [("rule_name", .text "start")]⟩
    once.errors = [noted, start] ∧
      ∃ second, (startRequired.validate context once).outcome = .ok second ∧
        second.failedRules = ["start"] ∧
        second.messages = ["End must be present.", "Start must be present.",
          "Start must be present."] := by
  intro context noted record once start
  have returned : (startRequired.validate context record).outcome
      = .ok ⟨"A-1", false, [], ["start"], [], [],
        ["End must be present.", "Start must be present."]⟩ := by cbv
  have left : (startRequired.validate context record).record.errors = [noted, start] := by cbv
  have gentle : ∀ i ∈ startRequired.rules, i.rule.Gentle := by
    intro i member
    obtain rfl := List.mem_singleton.mp member
    exact Rule.gentle_of_no_conditions (by cbv)
  obtain ⟨errors, _, filed, _, _, ⟨second, again, repeats, _, messages⟩, _⟩ :=
    repetition_appends_again gentle returned
  have same : [noted] ++ [start] = [noted] ++ errors := left.symm.trans filed
  obtain rfl : [start] = errors := List.append_cancel_left same
  exact ⟨left, second, again, repeats.lists .failed, messages.trans (by cbv)⟩

end Engine

end RecordRules
