import RecordRules.Calendar.Moment

/-!
# Reading dates and moments

The ISO forms that are accepted: a date as year, month and day or as year, week and weekday, with
or without hyphens; a time of day after any one character, with or without colons, down to any
number of decimals; `Z` or an offset at the end. Digits are those of ASCII.

A time of day before an offset may end in one stray character, and one without colons needs no
mark before its decimals.
-/

namespace RecordRules

namespace Calendar

/-- A digit of ASCII. -/
def isDigit (c : Char) : Bool := '0' ≤ c && c ≤ '9'

/-- The value of exactly `n` digits after a value read so far, and what follows them. -/
def digitsFrom (sofar : Nat) : Nat → List Char → Option (Nat × List Char)
  | 0, cs => some (sofar, cs)
  | n + 1, c :: cs =>
    if isDigit c then digitsFrom (sofar * 10 + (c.toNat - '0'.toNat)) n cs else none
  | _ + 1, [] => none

/-- The value of exactly `n` digits, and what follows them. -/
def digits? (n : Nat) (cs : List Char) : Option (Nat × List Char) := digitsFrom 0 n cs

/-- What follows a hyphen where one is demanded. -/
def afterHyphen? (demanded : Bool) (cs : List Char) : Option (List Char) :=
  match demanded, cs with
  | false, cs => some cs
  | true, '-' :: cs => some cs
  | true, _ => none

/-- A date in a stretch of `length` characters, which tells whether a week is followed by a weekday;
    what the date leaves unread is not looked at. -/
def date? (length : Nat) (cs : List Char) : Option Date := do
  let (year, rest) ← digits? 4 cs
  let hyphens := rest.head? == some '-'
  let rest ← afterHyphen? hyphens rest
  match rest with
  | 'W' :: rest =>
    let (week, rest) ← digits? 2 rest
    if (if hyphens then 8 else 7) < length then
      let rest ← afterHyphen? hyphens rest
      let (weekday, _) ← digits? 1 rest
      Date.ofWeek? year week weekday
    else Date.ofWeek? year week 1
  | rest =>
    let (month, rest) ← digits? 2 rest
    let rest ← afterHyphen? hyphens rest
    let (day, _) ← digits? 2 rest
    Date.of? year month day

/-- How far the date of a moment reaches; what follows it is the separating character. A week
    without hyphens is followed by a weekday iff the digits from there are odd in number. -/
def dateLength (cs : List Char) : Option Nat :=
  if cs.length = 7 then some 7
  else if cs[4]? = some '-' then
    if cs[5]? = some 'W' then
      if cs[8]? = some '-' then
        if cs.length = 9 then none
        else if cs[10]?.any isDigit then some 8
        else some 10
      else some 8
    else some 10
  else if cs[4]? = some 'W' then
    let stop := 7 + ((cs.drop 7).takeWhile isDigit).length
    if stop < 9 then some stop else if stop % 2 = 0 then some 7 else some 8
  else some 8

/-- Hours, minutes, seconds and microseconds as read, not yet checked; `complete` unless something
    was left unread at the end. -/
structure ClockReading where
  hour : Nat := 0
  minute : Nat := 0
  seconds : Nat := 0
  microsecond : Nat := 0
  complete : Bool := true

/-- Decimals of a second: of more than six only six count, and of less than six the first are
    enough. -/
def decimals? (cs : List Char) : Option (Nat × Bool) := do
  let count := min 6 cs.length
  let (value, rest) ← digits? count cs
  pure (value * Nat.pow 10 (6 - count), (rest.dropWhile isDigit).isEmpty)

/-- What follows a two-digit part of a time of day. -/
inductive Continuation where
  | finished (complete : Bool)
  | part (rest : List Char)
  | decimals (rest : List Char)
  | malformed

/-- Whether to go on after a two-digit part: `colons` says whether parts are kept apart by them. -/
def continuation (colons : Bool) : List Char → Continuation
  | [] => .finished true
  | [c] => if c.toNat < 128 then .finished false else .malformed
  | c :: rest =>
    if colons && c == ':' then .part rest
    else if c == '.' || c == ',' then .decimals rest
    else if colons then .malformed
    else .part (c :: rest)

/-- A time of day: two digits for the hour, for the minute and for the second, and decimals. -/
def clock? (cs : List Char) : Option ClockReading := do
  let (hour, rest) ← digits? 2 cs
  let colons := rest.head? == some ':'
  match continuation (colons || rest.isEmpty) rest with
  | .malformed => none
  | .finished complete => some { hour, complete }
  | .decimals rest =>
    let (microsecond, complete) ← decimals? rest
    some { hour, microsecond, complete }
  | .part rest =>
    let (minute, rest) ← digits? 2 rest
    match continuation colons rest with
    | .malformed => none
    | .finished complete => some { hour, minute, complete }
    | .decimals rest =>
      let (microsecond, complete) ← decimals? rest
      some { hour, minute, microsecond, complete }
    | .part rest =>
      let (seconds, rest) ← digits? 2 rest
      match continuation colons rest with
      | .malformed => none
      | .finished complete => some { hour, minute, seconds, complete }
      | .decimals rest | .part rest =>
        let (microsecond, complete) ← decimals? rest
        some { hour, minute, seconds, microsecond, complete }

/-- Whether a character begins a timezone. -/
def beginsZone (c : Char) : Bool := c == '+' || c == '-' || c == 'Z'

/-- The size of an offset with some reading. One of less than a second counts as none. -/
def ClockReading.offsetSize (reading : ClockReading) : Nat :=
  let seconds := (reading.hour * 60 + reading.minute) * 60 + reading.seconds
  if seconds = 0 then 0 else seconds * second + reading.microsecond

/-- An offset: `Z` alone, or a sign and a complete time. -/
def offset? : List Char → Option Int
  | ['Z'] => some 0
  | c :: rest =>
    if c == 'Z' then none
    else do
      let reading ← clock? rest
      let size : Int := reading.offsetSize
      if reading.complete then some (if c == '-' then -size else size) else none
  | [] => none

/-- A date with a time of day and perhaps an offset. -/
def timed? (date : Date) (cs : List Char) : Option Moment := do
  let reading ← clock? (cs.takeWhile fun c => !beginsZone c)
  let zone := cs.dropWhile fun c => !beginsZone c
  let time ← Moment.clockTime? reading.hour reading.minute reading.seconds reading.microsecond
  if zone.isEmpty then
    if reading.complete then Moment.of? date time none else none
  else do
    let offset ← offset? zone
    Moment.of? date time (some offset)

end Calendar

open Calendar

/-- The date that a text denotes, of the three lengths in bytes that a date has. -/
def Date.read? (s : String) : Option Date :=
  let length := s.utf8ByteSize
  if length = 7 ∨ length = 8 ∨ length = 10 then date? length s.toList else none

/-- The moment that a text denotes; a date alone stands for its midnight. -/
def Moment.read? (s : String) : Option Moment := do
  let cs := s.toList
  if cs.length < 7 then none
  else
    let length ← dateLength cs
    let date ← date? length cs
    match cs.drop length with
    | [] => Moment.of? date 0 none
    | _ :: rest => timed? date rest

end RecordRules
