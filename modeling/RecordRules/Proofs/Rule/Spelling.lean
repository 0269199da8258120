import Mathlib
import RecordRules.Declaration.Notation
import RecordRules.Proofs.Calendar.Written
import RecordRules.Proofs.Rule.Bound
import RecordRules.Proofs.Value.Lookup

/-!
# Spellings of a bound

A bound may be given as a date, as a text in a declaration, or as a text that an attribute holds or
a formula computes, perhaps with white space around it. The texts are read at different places, but
what is written of a date reads as that date (`Value.readDate_of_spells`), so the spelling of a
bound decides nothing (`Bound.spellings_agree`).
-/

namespace RecordRules

open Calendar

/-! ## White space -/

namespace Text

theorem isSpace_of_isDigit {c : Char} (digit : isDigit c = true) : isSpace c = false := by
  have range : 48 ≤ c.toNat ∧ c.toNat ≤ 57 := by
    simpa [isDigit, Char.le_def, UInt32.le_iff_toNat_le] using digit
  unfold isSpace CharSet.contains
  obtain ⟨first, last⟩ := range
  generalize c.toNat = point at first last
  interval_cases point <;> decide

/-- White space around characters that begin and end with a digit is taken off. -/
theorem strip_surrounded {before after s : String} (blankBefore : isBlank before = true)
    (blankAfter : isBlank after = true) (framed : Framed s.toList) :
    strip (before ++ s ++ after) = s := by
  obtain ⟨⟨first, rest, begins, firstDigit⟩, ⟨init, last, ends, lastDigit⟩⟩ := framed
  have spaceBefore := List.all_eq_true.mp blankBefore
  have spaceAfter := List.all_eq_true.mp blankAfter
  have left : (before ++ s ++ after).toList.dropWhile isSpace = s.toList ++ after.toList := by
    rw [String.toList_append, String.toList_append, List.append_assoc,
      List.dropWhile_append_of_pos spaceBefore, begins, List.cons_append,
      List.dropWhile_cons_of_neg (by simp [isSpace_of_isDigit firstDigit])]
  have right : (s.toList ++ after.toList).reverse.dropWhile isSpace = s.toList.reverse := by
    have spaceReversed : ∀ c ∈ after.toList.reverse, isSpace c = true :=
      fun c member => spaceAfter c (List.mem_reverse.mp member)
    rw [List.reverse_append, List.dropWhile_append_of_pos spaceReversed, ends, List.reverse_append,
      List.reverse_singleton, List.singleton_append,
      List.dropWhile_cons_of_neg (by simp [isSpace_of_isDigit lastDigit])]
  rw [strip, left, right, List.reverse_reverse, String.ofList_toList]

theorem isBlank_of_framed {before after s : String} (framed : Framed s.toList) :
    isBlank (before ++ s ++ after) = false := by
  obtain ⟨⟨first, rest, begins, digit⟩, _⟩ := framed
  rw [isBlank, Bool.eq_false_iff]
  intro blank
  have space := List.all_eq_true.mp blank first (by simp [begins])
  cases space.symm.trans (isSpace_of_isDigit digit)

end Text

/-! ## Texts of a date -/

/-- The texts of a date or moment: its ISO form, and the form for reading. A moment is to be in a
    timezone of whole seconds if it is in any. -/
inductive Spells : Value → String → Prop where
  | date (d : Date) : Spells (.date d) d.text
  | iso (m : Moment) (whole : ∀ o, m.offset = some o → o % second = 0) :
      Spells (.moment m) m.isoText
  | plain (m : Moment) (whole : ∀ o, m.offset = some o → o % second = 0) :
      Spells (.moment m) m.text

namespace Spells

variable {day : Value} {s : String}

theorem isDate (spells : Spells day s) : day.isDate = true := by
  cases spells <;> rfl

theorem framed (spells : Spells day s) : Framed s.toList := by
  cases spells with
  | date d =>
    rw [Date.text, String.toList_ofList]
    exact d.framed_characters
  | iso m whole => exact m.framed_textWith 'T'
  | plain m whole => exact m.framed_textWith ' '

/-- No text of a date is a word for the present time. -/
theorem ne_of_letter (spells : Spells day s) {word : String} {c : Char} {rest : List Char}
    (begins : word.toList = c :: rest) (letter : isDigit c = false) : s ≠ word := by
  rintro rfl
  obtain ⟨first, others, starts, digit⟩ := spells.framed.begins
  obtain ⟨rfl, _⟩ := List.cons.inj (starts.symm.trans begins)
  cases digit.symm.trans letter

end Spells

namespace Value

variable {day : Value} {s : String}

theorem readDate_text (d : Date) : readDate d.text = .ok (.date d) := by
  have plain : (d.text.toList.contains 'T' || d.text.toList.contains ':') = false := by
    have absent (c : Char) (noDigit : isDigit c = false) (noHyphen : c ≠ '-') :
        d.text.toList.contains c = false := by
      rw [Date.text, String.toList_ofList, Bool.eq_false_iff, ne_eq, List.contains_iff_mem]
      intro member
      rcases date_character member with digit | hyphen
      · cases digit.symm.trans noDigit
      · exact noHyphen hyphen
    rw [absent 'T' (by decide) (by decide), absent ':' (by decide) (by decide)]
    rfl
  rw [readDate, plain, if_neg Bool.false_ne_true, d.read?_text]
  rfl

theorem readDate_textWith (between : Char) (m : Moment)
    (whole : ∀ o, m.offset = some o → o % second = 0) :
    readDate (m.textWith between) = .ok (.moment m) := by
  have colon : (m.textWith between).toList.contains ':' = true := by
    rw [Moment.textWith, String.toList_ofList, List.contains_iff_mem]
    simp [Moment.clockCharacters]
  rw [readDate, colon, Bool.or_true, if_pos rfl, m.read?_textWith between whole]
  rfl

/-- A text of a date reads as the date. -/
theorem readDate_of_spells (spells : Spells day s) : readDate s = .ok day := by
  cases spells with
  | date d => exact readDate_text d
  | iso m whole => exact readDate_textWith 'T' m whole
  | plain m whole => exact readDate_textWith ' ' m whole

end Value

/-- In a declaration a text of a date stands for the date. -/
theorem Notation.bound_of_spells {day : Value} {s : String} (spells : Spells day s) :
    Notation.bound (.text s) = .ok day := by
  have noNow : s ≠ "now" := spells.ne_of_letter rfl (by decide)
  have noToday : s ≠ "today" := spells.ne_of_letter rfl (by decide)
  rw [Notation.bound]
  · exact Value.readDate_of_spells spells
  · simpa using noNow
  · simpa using noToday

namespace Bound

/-- That a bound refers to an attribute that holds a text, or computes the text. -/
inductive Yields (subject : Subject) : Value → String → Prop where
  | field {name : Value} {s : String} (read : subject.read name = .ok (.text s)) :
      Yields subject (.field name) s
  | computed {identity : Nat} {formula : Formula Value} {s : String}
      (computes : subject.evaluate formula = .ok (.text s)) :
      Yields subject (.computed identity formula) s

variable {subject : Subject} {clock : Moment} {value asReceived bound day : Value} {d : Direction}
  {withTime : Bool} {s : String}

theorem resolve_of_isDate (isDate : day.isDate = true) :
    resolve subject clock day value d = .ok day := by
  cases day with
  | date | moment => rfl
  | _ => cases isDate

/-- An attribute that holds a text is there, and has a text for a name. -/
theorem exists_name_of_read {name : Value} (read : subject.read name = .ok (.text s)) :
    (∃ own, name = .text own) ∧ subject.has name = .ok true := by
  obtain ⟨key, isKey, found⟩ := ok_bind_iff.mp read
  cases name with
  | text own =>
    refine ⟨⟨own, rfl⟩, ?_⟩
    cases held : subject.payload.get? (.text own) with
    | none =>
      rw [Value.asKey_text] at isKey
      cases isKey
      rw [held] at found
      cases found
    | some v =>
      rw [Subject.has, Value.asKey_text]
      simp only [bind, Except.bind, held]
      rfl
  | _ =>
    -- Under what is no text there is nothing.
    unfold Value.asKey at isKey
    split at isKey
    · cases isKey
    · cases isKey
      cases found

theorem ofResolved_surrounded {before after : String} (blankBefore : Text.isBlank before = true)
    (blankAfter : Text.isBlank after = true) (spells : Spells day s) (bound : Value) :
    ofResolved bound (.text (before ++ s ++ after)) = .ok day := by
  have filled : (Value.text (before ++ s ++ after)).isBlank = false :=
    Text.isBlank_of_framed spells.framed
  have noDate : (Value.text (before ++ s ++ after)).isDate = false := rfl
  rw [ofResolved, filled, noDate, Bool.or_false, if_neg Bool.false_ne_true]
  change Value.readDate (Text.strip (before ++ s ++ after)) = _
  rw [Text.strip_surrounded blankBefore blankAfter spells.framed]
  exact Value.readDate_of_spells spells

/-- What yields a text of a date, with white space around it, stands for the date. -/
theorem resolve_of_yields {before after : String} (blankBefore : Text.isBlank before = true)
    (blankAfter : Text.isBlank after = true) (spells : Spells day s)
    (yields : Yields subject bound (before ++ s ++ after)) :
    resolve subject clock bound value d = .ok day := by
  have came := ofResolved_surrounded blankBefore blankAfter spells bound
  cases yields with
  | field read =>
    obtain ⟨_, isThere⟩ := exists_name_of_read read
    rw [resolve, isThere, read]
    exact came
  | computed computes =>
    rw [resolve, computes]
    exact came

/-! ## One verdict -/

/-- What is known of a rejection if the clause of the bound can be composed. -/
theorem rejection_map_isSome (describes : ∃ clause, describe subject bound d = .ok clause) :
    (rejection subject asReceived bound d).map Option.isSome
      = (shown asReceived).map fun _ => true := by
  obtain ⟨clause, describes⟩ := describes
  unfold rejection
  rw [describes]
  cases shown asReceived <;> rfl

theorem exists_describe_of_isDate (isDate : day.isDate = true) :
    ∃ clause, describe subject day d = .ok clause := by
  cases day with
  | date | moment => exact ⟨_, rfl⟩
  | _ => cases isDate

theorem exists_describe_of_yields (yields : Yields subject bound s) :
    ∃ clause, describe subject bound d = .ok clause := by
  cases yields with
  | field read =>
    obtain ⟨⟨own, rfl⟩, _⟩ := exists_name_of_read read
    exact ⟨_, rfl⟩
  | computed computes =>
    rw [describe, computes]
    exact ⟨_, rfl⟩

/-- Bounds that stand for one date accept and reject the same. -/
theorem evaluate_map_isSome {other : Value}
    (resolves : resolve subject clock bound value d = .ok day)
    (describes : ∃ clause, describe subject bound d = .ok clause)
    (resolvesToo : resolve subject clock other value d = .ok day)
    (describesToo : ∃ clause, describe subject other d = .ok clause) :
    (evaluate subject clock value asReceived bound d withTime).map Option.isSome
      = (evaluate subject clock value asReceived other d withTime).map Option.isSome := by
  rw [evaluate_of_resolve resolves, evaluate_of_resolve resolvesToo]
  split
  · rfl
  · rw [rejection_map_isSome describes, rejection_map_isSome describesToo]

/-- All spellings of a bound agree. A text of a date stands for the date in a declaration, and so do
    an attribute that holds the text and a formula that computes it, with any white space around it.
    So each of them accepts what the date itself accepts and rejects what it rejects, and the text
    in a declaration says the same of what it rejects. -/
theorem spellings_agree (subject : Subject) (clock : Moment) (value asReceived : Value)
    (d : Direction) (withTime : Bool) {day : Value} {s : String} (spells : Spells day s) :
    let held := fun bound => evaluate subject clock value asReceived bound d withTime
    Notation.bound (.text s) = .ok day ∧
    (∀ parsed, Notation.bound (.text s) = .ok parsed → held parsed = held day) ∧
    ∀ before after bound, Text.isBlank before = true → Text.isBlank after = true →
      Yields subject bound (before ++ s ++ after) →
        resolve subject clock bound value d = .ok day ∧
        (held bound).map Option.isSome = (held day).map Option.isSome := by
  intro held
  have parses := Notation.bound_of_spells spells
  refine ⟨parses, ?_, ?_⟩
  · intro parsed isParsed
    cases parses.symm.trans isParsed
    rfl
  · intro before after bound blankBefore blankAfter yields
    have resolves : resolve subject clock bound value d = .ok day :=
      resolve_of_yields blankBefore blankAfter spells yields
    exact ⟨resolves, evaluate_map_isSome resolves (exists_describe_of_yields yields)
      (resolve_of_isDate spells.isDate) (exists_describe_of_isDate spells.isDate)⟩

/-- The end of a period that an attribute holds as a text between spaces is the moment that the
    text shows, and rejects what comes too late as this moment does. -/
theorem written_end_is_end :
    let day : Date := ⟨2024, 6, 15, by decide⟩
    let last : Moment := ⟨day, 50430500000, some 7200000000, by decide⟩
    let written : String := "2024-06-15 14:00:30.500000+02:00"
    let subject : Subject := ⟨"A-1", none, none, [("end", .text ("  " ++ written ++ " "))], none⟩
    let late : Value := .moment ⟨day, 54000000000, some 7200000000, by decide⟩
    let held := fun bound => evaluate subject last late late bound .before true
    Spells (.moment last) written ∧ Notation.bound (.text written) = .ok (.moment last) ∧
      resolve subject last (.field (.text "end")) late .before = .ok (.moment last) ∧
      (held (.moment last)).map Option.isSome = .ok true ∧
      (held (.field (.text "end"))).map Option.isSome = .ok true := by
  intro day last written subject late held
  have shows : last.text = written := by cbv
  have whole : ∀ o, last.offset = some o → o % second = 0 := by
    rintro o own
    cases own
    decide
  have spells : Spells (.moment last) written := shows ▸ .plain last whole
  have read : subject.read (.text "end") = .ok (.text ("  " ++ written ++ " ")) := by cbv
  obtain ⟨parses, _, agrees⟩ := spellings_agree subject last late late .before true spells
  obtain ⟨resolves, same⟩ := agrees "  " " " (.field (.text "end")) (by cbv) (by cbv) (.field read)
  have rejects : (held (.moment last)).map Option.isSome = .ok true := by
    have decides : held (.moment last) = rejection subject late (.moment last) .before :=
      ((decides_by_order subject last late late (.moment last) true).moments rfl rfl rfl).trans
        (if_neg (by decide))
    rw [decides, rejection_map_isSome (exists_describe_of_isDate rfl)]
    rfl
  exact ⟨spells, parses, resolves, rejects, same.trans rejects⟩

end Bound

end RecordRules
