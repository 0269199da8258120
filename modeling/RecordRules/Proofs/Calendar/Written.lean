import Mathlib.Data.List.Basic
import RecordRules.Calendar.Reading
import RecordRules.Calendar.Written
import RecordRules.Proofs.Calendar.Ordinal

/-!
# Reading what is written

The ISO form of a date reads as that date (`Date.read?_text`), and the form of a moment reads as
that moment whatever character stands between the day and the time of day (`Moment.read?_textWith`),
provided that its timezone is ahead or behind by whole seconds.
-/

namespace RecordRules

namespace Calendar

/-! ## Digits -/

theorem isDigit_eq (c : Char) : isDigit c = c.isDigit := by
  simp [isDigit, Char.isDigit, Char.le_def]

theorem isDigit_of_mem_padded {width n : Nat} {c : Char} (member : c ∈ padded width n) :
    isDigit c = true := by
  rcases List.mem_append.mp member with zero | digit
  · rw [List.eq_of_mem_replicate zero]
    decide
  · rw [isDigit_eq]
    exact Nat.isDigit_of_mem_toDigits (by decide) (by decide) digit

theorem length_padded {width n : Nat} (positive : 0 < width) (fits : n < 10 ^ width) :
    (padded width n).length = width := by
  have short := (Nat.length_toDigits_le_iff (b := 10) (by decide) positive).mpr fits
  simp only [padded, List.length_append, List.length_replicate]
  omega

/-- Digits are read to the value that they have after what was read before. -/
theorem digitsFrom_append (sofar : Nat) {digits : List Char}
    (all : ∀ c ∈ digits, isDigit c = true) (rest : List Char) :
    digitsFrom sofar digits.length (digits ++ rest)
      = some (Nat.ofDigitChars 10 digits sofar, rest) := by
  induction digits generalizing sofar with
  | nil => simp [digitsFrom]
  | cons c digits ih =>
    obtain ⟨isDigit, others⟩ := List.forall_mem_cons.mp all
    rw [List.length_cons, List.cons_append, digitsFrom, if_pos isDigit, ih _ others,
      Nat.ofDigitChars_cons, Nat.mul_comm]

/-- A number that fits its width is read back from there. -/
theorem digits?_padded {width n : Nat} (positive : 0 < width) (fits : n < 10 ^ width)
    (rest : List Char) : digits? width (padded width n ++ rest) = some (n, rest) := by
  have all : ∀ c ∈ padded width n, isDigit c = true := fun _ => isDigit_of_mem_padded
  have read := digitsFrom_append 0 all rest
  rw [length_padded positive fits] at read
  rw [digits?, read, padded, Nat.ofDigitChars_append]
  simp

/-- A number of two digits. -/
theorem padded_two {n : Nat} (fits : n < 100) :
    ∃ a b, padded 2 n = [a, b] ∧ isDigit a = true ∧ isDigit b = true := by
  obtain ⟨a, b, digits⟩ := List.length_eq_two.mp (length_padded (by decide) fits : _ = 2)
  refine ⟨a, b, digits, ?_, ?_⟩
  · exact isDigit_of_mem_padded (digits ▸ List.mem_cons_self)
  · exact isDigit_of_mem_padded (digits ▸ List.mem_cons_of_mem a (List.mem_singleton_self b))

theorem ne_of_isDigit {c other : Char} (digit : isDigit c = true)
    (noDigit : isDigit other = false) : c ≠ other := by
  rintro rfl
  cases digit.symm.trans noDigit

/-- Characters the last of which is a digit. -/
def EndsInDigit (cs : List Char) : Prop := ∃ init c, cs = init ++ [c] ∧ isDigit c = true

theorem endsInDigit_padded (width n : Nat) : EndsInDigit (padded width n) := by
  rcases List.eq_nil_or_concat' (padded width n) with none | ⟨init, c, digits⟩
  · exact absurd (List.append_eq_nil_iff.mp none).2 Nat.toDigits_ne_nil
  · have member : c ∈ padded width n :=
      digits ▸ List.mem_append_right init (List.mem_singleton_self c)
    exact ⟨init, c, digits, isDigit_of_mem_padded member⟩

theorem endsInDigit_append (before : List Char) {cs : List Char} (ends : EndsInDigit cs) :
    EndsInDigit (before ++ cs) := by
  obtain ⟨init, c, rfl, digit⟩ := ends
  exact ⟨before ++ init, c, (List.append_assoc ..).symm, digit⟩

theorem endsInDigit_cons (first : Char) {cs : List Char} (ends : EndsInDigit cs) :
    EndsInDigit (first :: cs) :=
  endsInDigit_append [first] ends

theorem endsInDigit_fraction {cs : List Char} (ends : EndsInDigit cs) (microsecond : Nat) :
    EndsInDigit (cs ++ fraction microsecond) := by
  unfold fraction
  split_ifs
  · rwa [List.append_nil]
  · exact endsInDigit_append cs (endsInDigit_cons '.' (endsInDigit_padded 6 microsecond))

/-- Characters that begin and end with a digit. -/
structure Framed (cs : List Char) : Prop where
  begins : ∃ c rest, cs = c :: rest ∧ isDigit c = true
  ends : EndsInDigit cs

/-! ## Dates -/

theorem daysInMonth_lt (year month : Nat) : daysInMonth year month < 100 := by
  unfold daysInMonth
  split_ifs <;> decide

/-- A written date is read, whatever follows it. -/
theorem date?_characters (length : Nat) (d : Date) (rest : List Char) :
    date? length (d.characters ++ rest) = some d := by
  obtain ⟨⟨_, year⟩, ⟨_, month⟩, _, day⟩ := d.real
  have short := daysInMonth_lt d.year d.month
  obtain ⟨a, b, monthDigits, digit, _⟩ := padded_two (n := d.month) (by omega)
  -- A letter where the month begins would make it a date of a week.
  have noWeek : a ≠ 'W' := ne_of_isDigit digit (by decide)
  have readMonth := digits?_padded (by decide : 0 < 2) (by omega : d.month < 10 ^ 2)
    ('-' :: (padded 2 d.day ++ rest))
  rw [monthDigits, List.cons_append, List.cons_append, List.nil_append] at readMonth
  simp only [Date.characters, List.append_assoc, List.cons_append]
  rw [date?, digits?_padded (by decide) (by omega), monthDigits]
  simp only [Option.bind_eq_bind, Option.bind_some, List.head?_cons, beq_self_eq_true,
    afterHyphen?, List.cons_append, List.nil_append]
  split
  next week same => exact absurd (List.cons.inj same).1 noWeek
  next =>
    simp only [readMonth, Option.bind_some, digits?_padded (by decide : 0 < 2)
      (by omega : d.day < 10 ^ 2)]
    exact Date.of?_eq_some_iff.mpr ⟨rfl, rfl, rfl⟩

/-- A written date is made of digits and hyphens. -/
theorem date_character {d : Date} {c : Char} (member : c ∈ d.characters) :
    isDigit c = true ∨ c = '-' := by
  simp only [Date.characters, List.mem_append, List.mem_cons] at member
  rcases member with (year | hyphen | month) | hyphen | day
  · exact .inl (isDigit_of_mem_padded year)
  · exact .inr hyphen
  · exact .inl (isDigit_of_mem_padded month)
  · exact .inr hyphen
  · exact .inl (isDigit_of_mem_padded day)

theorem length_characters (d : Date) : d.characters.length = 10 := by
  obtain ⟨⟨_, year⟩, ⟨_, month⟩, _, day⟩ := d.real
  have short := daysInMonth_lt d.year d.month
  simp only [Date.characters, List.length_append, List.length_cons,
    length_padded (by decide : 0 < 4) (by omega : d.year < 10 ^ 4),
    length_padded (by decide : 0 < 2) (by omega : d.month < 10 ^ 2),
    length_padded (by decide : 0 < 2) (by omega : d.day < 10 ^ 2)]

/-- A written date is found to reach to its end. -/
theorem dateLength_characters (d : Date) (rest : List Char) :
    dateLength (d.characters ++ rest) = some 10 := by
  obtain ⟨⟨_, year⟩, ⟨_, month⟩, _, _⟩ := d.real
  obtain ⟨a, b, monthDigits, digit, _⟩ := padded_two (n := d.month) (by omega)
  have four := length_padded (by decide : 0 < 4) (by omega : d.year < 10 ^ 4)
  have long : (d.characters ++ rest).length ≠ 7 := by
    rw [List.length_append, length_characters]
    omega
  have parts : d.characters ++ rest =
      padded 4 d.year ++ '-' :: a :: b :: '-' :: (padded 2 d.day ++ rest) := by
    simp [Date.characters, monthDigits]
  have hyphen : (d.characters ++ rest)[4]? = some '-' := by
    rw [parts, List.getElem?_append_right (by omega), four]
    rfl
  have noWeek : (d.characters ++ rest)[5]? ≠ some 'W' := by
    rw [parts, List.getElem?_append_right (by omega), four]
    intro week
    exact ne_of_isDigit digit (by decide) (Option.some.inj week)
  rw [dateLength, if_neg long, if_pos hyphen, if_neg noWeek]

theorem utf8Size_of_isDigit {c : Char} (digit : isDigit c = true) : c.utf8Size = 1 := by
  simp only [isDigit, Bool.and_eq_true, decide_eq_true_eq] at digit
  have ascii : c.val ≤ 127 := UInt32.le_trans (Char.le_def.mp digit.2) (by decide)
  exact if_pos ascii

theorem begins_characters (d : Date) (rest : List Char) :
    ∃ c others, d.characters ++ rest = c :: others ∧ isDigit c = true := by
  cases digits : padded 4 d.year with
  | nil => exact absurd (List.append_eq_nil_iff.mp digits).2 Nat.toDigits_ne_nil
  | cons c others =>
    refine ⟨c, others ++ ('-' :: padded 2 d.month ++ '-' :: padded 2 d.day ++ rest), ?_, ?_⟩
    · simp [Date.characters, digits]
    · exact isDigit_of_mem_padded (digits ▸ List.mem_cons_self)

/-- In characters of one byte a text is as long as in bytes. -/
theorem utf8ByteSize_ofList {cs : List Char} (narrow : ∀ c ∈ cs, c.utf8Size = 1) :
    (String.ofList cs).utf8ByteSize = cs.length := by
  induction cs with
  | nil => rfl
  | cons c rest ih =>
    obtain ⟨first, others⟩ := List.forall_mem_cons.mp narrow
    rw [String.ofList_cons, String.utf8ByteSize_append, String.utf8ByteSize_singleton, first,
      ih others, List.length_cons, Nat.add_comm]

/-! ## Times of day -/

/-- After a part of a time of day that colons keep apart, a colon and another part follow. -/
theorem continuation_part (a b : Char) (rest : List Char) :
    continuation true (':' :: a :: b :: rest) = .part (a :: b :: rest) := rfl

/-- A fraction of a second follows a point, where there is one. -/
theorem continuation_fraction {microsecond : Nat} (fits : microsecond < second) :
    continuation true (fraction microsecond) =
      if microsecond = 0 then .finished true else .decimals (padded 6 microsecond) := by
  unfold fraction
  split
  next => rfl
  next =>
    have six := length_padded (by decide : 0 < 6) fits
    cases digits : padded 6 microsecond with
    | nil =>
      rw [digits] at six
      cases six
    | cons c rest => rfl

/-- Six decimals are microseconds. -/
theorem decimals?_padded {microsecond : Nat} (fits : microsecond < second) :
    decimals? (padded 6 microsecond) = some (microsecond, true) := by
  have six := length_padded (by decide : 0 < 6) fits
  have read := digits?_padded (by decide : 0 < 6) fits []
  rw [List.append_nil] at read
  rw [decimals?, six]
  simp [read]

/-- Hours and minutes are read. -/
theorem clock?_minutes {hour minute : Nat} (hours : hour < 100) (minutes : minute < 100) :
    clock? (padded 2 hour ++ ':' :: padded 2 minute) = some { hour, minute } := by
  obtain ⟨a, b, minuteDigits, _, _⟩ := padded_two minutes
  have readMinute := digits?_padded (by decide : 0 < 2) minutes []
  rw [clock?, digits?_padded (by decide) hours]
  simp only [Option.bind_eq_bind, Option.bind_some, List.head?_cons, beq_self_eq_true,
    Bool.true_or]
  rw [minuteDigits] at readMinute ⊢
  simp only [List.append_nil] at readMinute
  rw [continuation_part]
  simp only [readMinute, Option.bind_some]
  rfl

/-- Hours, minutes, seconds and their fraction are read. -/
theorem clock?_seconds {hour minute seconds microsecond : Nat} (hours : hour < 100)
    (minutes : minute < 100) (secondsFit : seconds < 100) (fits : microsecond < second) :
    clock? (padded 2 hour ++ ':' :: padded 2 minute ++ ':' :: padded 2 seconds
      ++ fraction microsecond) = some { hour, minute, seconds, microsecond } := by
  obtain ⟨a, b, minuteDigits, _, _⟩ := padded_two minutes
  obtain ⟨c, d, secondDigits, _, _⟩ := padded_two secondsFit
  have readMinute := digits?_padded (by decide : 0 < 2) minutes
    (':' :: (padded 2 seconds ++ fraction microsecond))
  have readSecond := digits?_padded (by decide : 0 < 2) secondsFit (fraction microsecond)
  simp only [List.append_assoc, List.cons_append]
  rw [clock?, digits?_padded (by decide) hours]
  simp only [Option.bind_eq_bind, Option.bind_some, List.head?_cons, beq_self_eq_true,
    Bool.true_or]
  rw [minuteDigits] at readMinute ⊢
  rw [secondDigits] at readSecond readMinute ⊢
  simp only [List.cons_append, List.nil_append] at readMinute readSecond ⊢
  rw [continuation_part]
  simp only [readMinute, Option.bind_some]
  rw [continuation_part]
  simp only [readSecond, Option.bind_some, continuation_fraction fits]
  split_ifs with whole
  · rw [whole]
  · simp only [decimals?_padded fits, Option.bind_some]

/-! ## Timezones -/

/-- What is written of an offset after its sign. -/
def sizeText (size : Nat) : List Char :=
  padded 2 (size / (3600 * second)) ++ ':' :: padded 2 (size / (60 * second) % 60) ++
    if size % (60 * second) = 0 then []
    else ':' :: padded 2 (size % (60 * second) / second) ++ fraction (size % (60 * second) % second)

theorem offsetText_eq (offset : Int) :
    offsetText (some offset) = (if offset < 0 then '-' else '+') :: sizeText offset.natAbs := by
  simp only [offsetText, sizeText, List.cons_append, List.append_assoc]

/-- A whole number of seconds is its hours, minutes and seconds. -/
theorem offsetSize_parts {size : Nat} (whole : size % second = 0) :
    (ClockReading.mk (size / (3600 * second)) (size / (60 * second) % 60)
      (size % (60 * second) / second) 0 true).offsetSize = size := by
  have total : (size / (3600 * second) * 60 + size / (60 * second) % 60) * 60 +
      size % (60 * second) / second = size / second := by
    simp only [second]
    omega
  unfold ClockReading.offsetSize
  dsimp only
  rw [total]
  split_ifs with none
  · simp only [second] at *
    omega
  · simp only [second] at *
    omega

/-- What is written after the sign is a time of day, whose size is that of the offset. -/
theorem exists_clock?_sizeText {size : Nat} (whole : size % second = 0) (short : size < dayLength) :
    ∃ reading, clock? (sizeText size) = some reading ∧ reading.complete = true ∧
      reading.offsetSize = size := by
  have hours : size / (3600 * second) < 100 := by
    simp only [dayLength, second] at *
    omega
  have minutes : size / (60 * second) % 60 < 100 := by omega
  have seconds : size % (60 * second) / second < 100 := by
    simp only [second]
    omega
  have parts := offsetSize_parts whole
  unfold sizeText
  split_ifs with noSeconds
  · rw [List.append_nil]
    refine ⟨_, clock?_minutes hours minutes, rfl, ?_⟩
    rw [noSeconds] at parts
    exact parts
  · have noFraction : size % (60 * second) % second = 0 := by
      simp only [second] at *
      omega
    rw [noFraction, ← List.append_assoc]
    exact ⟨_, clock?_seconds hours minutes seconds (by decide), rfl, parts⟩

/-- An offset of whole seconds is read. -/
theorem offset?_offsetText {offset : Int} (inZone : ZoneInRange (some offset))
    (whole : offset % second = 0) : offset? (offsetText (some offset)) = some offset := by
  have short : offset.natAbs < dayLength := by
    simp only [ZoneInRange] at inZone
    omega
  have wholeSize : offset.natAbs % second = 0 := by
    simp only [second] at *
    omega
  obtain ⟨reading, read, complete, size⟩ := exists_clock?_sizeText wholeSize short
  rw [offsetText_eq]
  by_cases behind : offset < 0
  · have negated : -(offset.natAbs : Int) = offset := by omega
    rw [if_pos behind, offset?, if_neg (by decide), read, Option.bind_eq_bind, Option.bind_some,
      if_pos complete, size]
    · exact congrArg some negated
    · simp
  · have unsigned : (offset.natAbs : Int) = offset := by omega
    rw [if_neg behind, offset?, if_neg (by decide), read, Option.bind_eq_bind, Option.bind_some,
      if_pos complete, size]
    · exact congrArg some unsigned
    · simp

theorem endsInDigit_sizeText (size : Nat) : EndsInDigit (sizeText size) := by
  have minutes := endsInDigit_append (padded 2 (size / (3600 * second)))
    (endsInDigit_cons ':' (endsInDigit_padded 2 (size / (60 * second) % 60)))
  unfold sizeText
  split_ifs
  · rwa [List.append_nil]
  · exact endsInDigit_append _
      (endsInDigit_fraction (endsInDigit_cons ':' (endsInDigit_padded 2 _)) _)

/-- The beginning of a timezone ends the time of day before it. -/
theorem span_offsetText {text : List Char} (inner : ∀ c ∈ text, beginsZone c = false)
    (offset : Option Int) :
    ((text ++ offsetText offset).takeWhile fun c => !beginsZone c) = text ∧
      ((text ++ offsetText offset).dropWhile fun c => !beginsZone c) = offsetText offset := by
  have passes : ∀ c ∈ text, (fun c => !beginsZone c) c = true := by
    intro c member
    simp [inner c member]
  rw [List.takeWhile_append_of_pos passes, List.dropWhile_append_of_pos passes]
  cases offset with
  | none => simp [offsetText]
  | some offset =>
    rw [offsetText_eq]
    split_ifs <;> simp [beginsZone]

end Calendar

open Calendar

theorem Date.framed_characters (d : Date) : Framed d.characters where
  begins := by
    obtain ⟨c, others, begins, digit⟩ := begins_characters d []
    exact ⟨c, others, (List.append_nil _).symm.trans begins, digit⟩
  ends := endsInDigit_append _ (endsInDigit_cons '-' (endsInDigit_padded 2 d.day))

/-- What is written of a date reads as the date. -/
theorem Date.read?_text (d : Date) : Date.read? d.text = some d := by
  have narrow : ∀ c ∈ d.characters, c.utf8Size = 1 := by
    intro c member
    rcases date_character member with digit | rfl
    · exact utf8Size_of_isDigit digit
    · rfl
  have size : d.text.utf8ByteSize = 10 := (utf8ByteSize_ofList narrow).trans (length_characters d)
  have read := date?_characters 10 d []
  rw [List.append_nil] at read
  rw [Date.read?, size, Date.text, String.toList_ofList]
  exact read

namespace Moment

/-- What is written of the time of day, without the timezone. -/
def timeCharacters (m : Moment) : List Char :=
  padded 2 m.hour ++ ':' :: padded 2 m.minute ++ ':' :: padded 2 m.seconds ++
    fraction m.microsecond

theorem clockCharacters_eq (m : Moment) :
    m.clockCharacters = m.timeCharacters ++ offsetText m.offset := rfl

/-- A written time of day is made of digits, colons and a point. -/
theorem time_character {m : Moment} {c : Char} (member : c ∈ m.timeCharacters) :
    isDigit c = true ∨ c = ':' ∨ c = '.' := by
  simp only [timeCharacters, fraction, List.mem_append, List.mem_cons] at member
  rcases member with ((hour | colon | minute) | colon | seconds) | decimals
  · exact .inl (isDigit_of_mem_padded hour)
  · exact .inr (.inl colon)
  · exact .inl (isDigit_of_mem_padded minute)
  · exact .inr (.inl colon)
  · exact .inl (isDigit_of_mem_padded seconds)
  · split_ifs at decimals
    · cases decimals
    · rcases List.mem_cons.mp decimals with point | digit
      · exact .inr (.inr point)
      · exact .inl (isDigit_of_mem_padded digit)

theorem endsInDigit_clockCharacters (m : Moment) : EndsInDigit m.clockCharacters := by
  rw [clockCharacters_eq]
  cases m.offset with
  | none =>
    rw [offsetText, List.append_nil]
    exact endsInDigit_fraction
      (endsInDigit_append _ (endsInDigit_cons ':' (endsInDigit_padded 2 m.seconds))) m.microsecond
  | some offset =>
    rw [offsetText_eq]
    exact endsInDigit_append _ (endsInDigit_cons _ (endsInDigit_sizeText _))

theorem framed_textWith (between : Char) (m : Moment) : Framed (m.textWith between).toList where
  begins := by
    rw [textWith, String.toList_ofList]
    exact begins_characters m.date (between :: m.clockCharacters)
  ends := by
    rw [textWith, String.toList_ofList]
    exact endsInDigit_append _ (endsInDigit_cons between m.endsInDigit_clockCharacters)

/-- The parts of the time of day make it up. -/
theorem clockTime?_parts (m : Moment) :
    clockTime? m.hour m.minute m.seconds m.microsecond = some m.time := by
  have inDay := m.within.1
  have hours : m.hour < 24 := by
    simp only [hour, dayLength, second] at *
    omega
  have minutes : m.minute < 60 := Nat.mod_lt _ (by decide)
  have seconds : m.seconds < 60 := Nat.mod_lt _ (by decide)
  have microseconds : m.microsecond < second := Nat.mod_lt _ (by decide)
  have total : ((m.hour * 60 + m.minute) * 60 + m.seconds) * second + m.microsecond = m.time := by
    simp only [hour, minute, Moment.seconds, microsecond, second]
    omega
  simp [clockTime?, hours, minutes, seconds, microseconds, total]

theorem clock?_timeCharacters (m : Moment) : clock? m.timeCharacters =
    some ⟨m.hour, m.minute, m.seconds, m.microsecond, true⟩ := by
  have inDay := m.within.1
  refine clock?_seconds ?_ ?_ ?_ ?_
  all_goals
    simp only [hour, minute, seconds, microsecond, dayLength, second] at *
    omega

/-- A written time of day with its timezone is read, if this is ahead or behind by whole seconds. -/
theorem timed?_clockCharacters (m : Moment) (whole : ∀ o, m.offset = some o → o % second = 0) :
    timed? m.date m.clockCharacters = some m := by
  have inner : ∀ c ∈ m.timeCharacters, beginsZone c = false := by
    intro c member
    rcases time_character member with digit | rfl | rfl
    · have noSign : c ≠ '+' := ne_of_isDigit digit (by decide)
      have noMinus : c ≠ '-' := ne_of_isDigit digit (by decide)
      have noLetter : c ≠ 'Z' := ne_of_isDigit digit (by decide)
      simp [beginsZone, noSign, noMinus, noLetter]
    · rfl
    · rfl
  obtain ⟨time, zone⟩ := span_offsetText inner m.offset
  rw [timed?, clockCharacters_eq, time, zone, clock?_timeCharacters]
  simp only [Option.bind_eq_bind, Option.bind_some, clockTime?_parts]
  have made : of? m.date m.time m.offset = some m := dif_pos m.within
  have inZone := m.within.2
  cases own : m.offset with
  | none =>
    rw [own] at made
    simpa [offsetText] using made
  | some o =>
    rw [own] at made inZone
    have zoned : (offsetText (some o)).isEmpty = false := by
      rw [offsetText_eq]
      rfl
    rw [zoned, if_neg Bool.false_ne_true, offset?_offsetText inZone (whole o own)]
    exact made

/-- What is written of a moment reads as the moment. -/
theorem read?_textWith (between : Char) (m : Moment)
    (whole : ∀ o, m.offset = some o → o % second = 0) :
    Moment.read? (m.textWith between) = some m := by
  have ten := length_characters m.date
  have enough : ¬(m.date.characters ++ between :: m.clockCharacters).length < 7 := by
    rw [List.length_append, ten]
    omega
  have after : (m.date.characters ++ between :: m.clockCharacters).drop 10
      = between :: m.clockCharacters := by
    rw [← ten, List.drop_left]
  rw [Moment.read?, textWith, String.toList_ofList]
  simp only [enough, reduceIte, dateLength_characters, date?_characters, Option.bind_eq_bind,
    Option.bind_some, after]
  exact timed?_clockCharacters m whole

end Moment

end RecordRules
