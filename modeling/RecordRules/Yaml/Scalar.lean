import RecordRules.Number.Numeral
import RecordRules.Value.Text

/-!
# What plain scalars of YAML denote

A plain scalar is a truth value, a number, a date, a moment or nothing if it has the form of one,
and otherwise a text. Numbers may have underscores, a base, or colons between digits of base 60;
floating-point numbers need a point.
-/

namespace RecordRules.Yaml

open Numeral (isDigit sign)

/-! ## Whole numbers -/

/-- A decimal digit, or an underscore between digits. -/
def isDigitOrMark (c : Char) : Bool := isDigit c || c == '_'

/-- A binary digit, or an underscore. -/
def isBinary (c : Char) : Bool := c == '0' || c == '1' || c == '_'

/-- An octal digit, or an underscore. -/
def isOctal (c : Char) : Bool := ('0' ≤ c && c ≤ '7') || c == '_'

/-- A hexadecimal digit, or an underscore. -/
def isHex (c : Char) : Bool := (Numeral.digitValue c).isSome || c == '_'

/-- Digits with marks between them, where the first is a digit other than zero. -/
def isPositive : List Char → Bool
  | [] => false
  | c :: rest => isDigit c && c != '0' && rest.all isDigitOrMark

/-- A digit of base 60: one digit, or two of which the first is at most 5. -/
def isSixtieth : List Char → Bool
  | [c] => isDigit c
  | [c, d] => '0' ≤ c && c ≤ '5' && isDigit d
  | _ => false

/-- Characters cut at colons. -/
def cutAtColons : List Char → List (List Char)
  | [] => [[]]
  | c :: rest =>
    match cutAtColons rest with
    | [] => [[c]]
    | first :: others => if c == ':' then [] :: first :: others else (c :: first) :: others

/-- The forms of a whole number without its sign. -/
def isWhole (cs : List Char) : Bool :=
  match cs with
  | ['0'] => true
  | '0' :: 'b' :: rest => !rest.isEmpty && rest.all isBinary
  | '0' :: 'x' :: rest => !rest.isEmpty && rest.all isHex
  | '0' :: rest => rest.all isOctal
  | cs =>
    match cutAtColons cs with
    | [digits] => isPositive digits
    | digits :: rest => isPositive digits && rest.all isSixtieth
    | [] => false

/-- The digits of a numeral without the marks between them. -/
def unmarked (cs : List Char) : List Char := cs.filter (· != '_')

/-- The value of digits in a base; there must be one. -/
def digitsIn (base : Nat) (cs : List Char) : Except Fault Nat :=
  match Numeral.natural? base cs with
  | some n => .ok n
  | none => .error (.numeral base (String.ofList cs))

/-- The value of a whole number without its sign and its marks. -/
def wholeValue (cs : List Char) : Except Fault Nat :=
  match cs with
  | ['0'] => .ok 0
  | '0' :: 'b' :: rest => digitsIn 2 rest
  | '0' :: 'x' :: rest => digitsIn 16 rest
  | '0' :: rest => digitsIn 8 ('0' :: rest)
  | cs =>
    (cutAtColons cs).foldlM (fun value part => do return value * 60 + (← digitsIn 10 part)) 0

/-! ## Floating-point numbers -/

/-- Nothing, or an exponent with its sign. -/
def isExponent : List Char → Bool
  | [] => true
  | e :: s :: rest =>
    (e == 'e' || e == 'E') && (s == '+' || s == '-') && !rest.isEmpty && rest.all isDigit
  | _ => false

/-- Digits that begin with one. -/
def isDigits : List Char → Bool
  | [] => false
  | c :: rest => isDigit c && rest.all isDigitOrMark

/-- A numeral with a point: digits, the point, and perhaps digits and an exponent. -/
def isPointed (cs : List Char) : Bool :=
  match cs.span (· != '.') with
  | (whole, '.' :: rest) => isDigits whole && isExponent (rest.dropWhile isDigitOrMark)
  | _ => false

/-- A numeral that begins with a point, which has no sign. -/
def isFraction : List Char → Bool
  | '.' :: c :: rest => isDigit c && isExponent (rest.dropWhile isDigitOrMark)
  | _ => false

/-- A numeral of base 60 with a point. -/
def isSexagesimal (cs : List Char) : Bool :=
  match cs.span (· != '.') with
  | (whole, '.' :: rest) =>
    rest.all isDigitOrMark &&
      match cutAtColons whole with
      | digits :: part :: parts => isDigits digits && (part :: parts).all isSixtieth
      | _ => false
  | _ => false

/-- The value of a numeral of base 60 with a point. -/
def sexagesimalValue (cs : List Char) : Option Double := do
  let parts ← (cutAtColons cs).mapM (Numeral.decimal? false)
  let (value, _) := parts.reverse.foldl
    (fun (value, base) part => (Double.add value (part.scale base), base * 60))
    (Double.finite false 0, 1)
  pure value

/-- The floating-point number that a scalar denotes. -/
def double? (cs : List Char) : Option Double :=
  let (negative, body) := sign cs
  let signed (x : Double) : Double := if negative then x.neg else x
  if [".inf".toList, ".Inf".toList, ".INF".toList].contains body then some (.infinite negative)
  else if [".nan".toList, ".NaN".toList, ".NAN".toList].contains cs then some (.nan 0)
  else if isPointed body || isFraction cs then
    (Numeral.decimal? false (unmarked body)).map signed
  else if isSexagesimal body then (sexagesimalValue (unmarked body)).map signed
  else none

/-! ## Dates and moments -/

/-- One digit or two, and what follows. -/
def oneOrTwo : List Char → Option (Nat × List Char)
  | c :: d :: rest =>
    if !isDigit c then none
    else if isDigit d then (Numeral.natural? 10 [c, d]).map (·, rest)
    else (Numeral.natural? 10 [c]).map (·, d :: rest)
  | [c] => if isDigit c then (Numeral.natural? 10 [c]).map (·, []) else none
  | [] => none

/-- Two digits, and what follows. -/
def two : List Char → Option (Nat × List Char)
  | c :: d :: rest =>
    if isDigit c && isDigit d then (Numeral.natural? 10 [c, d]).map (·, rest) else none
  | _ => none

/-- What follows a character. -/
def afterChar (c : Char) : List Char → Option (List Char)
  | d :: rest => if c == d then some rest else none
  | [] => none

/-- The form of a date: digits and hyphens. -/
def isDay (cs : List Char) : Bool :=
  cs.length = 10 && cs.zipIdx.all fun (c, i) =>
    if i = 4 || i = 7 then c == '-' else isDigit c

/-- The numbers that a date or moment is written with; an offset is in minutes. -/
structure Written where
  year : Nat
  month : Nat
  day : Nat
  clock : Option (Nat × Nat × Nat × Nat)
  offset : Option Int

/-- An offset at the end: none, `Z`, or hours and perhaps minutes with a sign. -/
def writtenOffset (cs : List Char) : Option (Option Int) :=
  match cs.dropWhile fun c => c == ' ' || c == '\t' with
  | [] => if cs.isEmpty then some none else none
  | ['Z'] => some (some 0)
  | s :: rest => do
    if s == '+' || s == '-' then
      let (hours, rest) ← oneOrTwo rest
      let minutes ← match rest with
        | [] => some 0
        | ':' :: rest => do
          let (minutes, rest) ← two rest
          if rest.isEmpty then some minutes else none
        | _ => none
      let size : Int := hours * 60 + minutes
      some (some (if s == '-' then -size else size))
    else none

/-- A moment: a date, a separator, a time of day to the second, and perhaps decimals and an
    offset. -/
def writtenMoment (cs : List Char) : Option Written := do
  let whole := cs.take 4
  if !(whole.length = 4 && whole.all isDigit) then failure
  let year ← Numeral.natural? 10 whole
  let (month, rest) ← oneOrTwo (← afterChar '-' (cs.drop 4))
  let (day, rest) ← oneOrTwo (← afterChar '-' rest)
  let rest ← match rest with
    | 'T' :: rest | 't' :: rest => some rest
    | c :: rest =>
      if c == ' ' || c == '\t' then some (rest.dropWhile fun c => c == ' ' || c == '\t') else none
    | [] => none
  let (hour, rest) ← oneOrTwo rest
  let (minute, rest) ← two (← afterChar ':' rest)
  let (seconds, rest) ← two (← afterChar ':' rest)
  let (decimals, rest) := match rest with
    | '.' :: rest => (rest.takeWhile isDigit, rest.dropWhile isDigit)
    | rest => ([], rest)
  let six := (decimals ++ List.replicate 6 '0').take 6
  let microsecond ← Numeral.natural? 10 six
  let offset ← writtenOffset rest
  some { year, month, day, clock := some (hour, minute, seconds, microsecond), offset }

/-- What a scalar with the form of a date or a moment is written with. -/
def written? (cs : List Char) : Option Written :=
  if isDay cs then do
    let year ← Numeral.natural? 10 (cs.take 4)
    let month ← Numeral.natural? 10 ((cs.drop 5).take 2)
    let day ← Numeral.natural? 10 (cs.drop 8)
    some { year, month, day, clock := none, offset := none }
  else writtenMoment cs

/-- The date with some numbers, which must exist. -/
def dateOf (year month day : Nat) : Except Fault Date :=
  match Date.of? year month day with
  | some d => .ok d
  | none =>
    if year = 0 || 9999 < year then .error (.yearRange year)
    else if month = 0 || 12 < month then .error .monthRange
    else .error .dayRange

/-- The date or moment with some numbers, which must exist. -/
def Written.value (w : Written) : Except Fault Value :=
  match w.clock with
  | none => do return .date (← dateOf w.year w.month w.day)
  | some (hour, minute, seconds, microsecond) => do
    let offset := w.offset.map (· * (60 * Calendar.second : Int))
    if !decide (Calendar.ZoneInRange offset) then
      throw (.zoneRange (Calendar.spanLiteral (offset.getD 0)))
    let date ← dateOf w.year w.month w.day
    match Moment.clockTime? hour minute seconds microsecond with
    | none =>
      if 24 ≤ hour then throw .hourRange
      else if 60 ≤ minute then throw .minuteRange
      else throw .secondRange
    | some time =>
      match Moment.of? date time offset with
      | some m => return .moment m
      | none => throw .secondRange

/-! ## Resolution -/

/-- The words for true and false. -/
def truth? (s : String) : Option Bool :=
  if ["yes", "Yes", "YES", "true", "True", "TRUE", "on", "On", "ON"].contains s then some true
  else if ["no", "No", "NO", "false", "False", "FALSE", "off", "Off", "OFF"].contains s then
    some false
  else none

/-- The words for nothing. -/
def isNull (s : String) : Bool := ["", "~", "null", "Null", "NULL"].contains s

/-- What a plain scalar denotes. -/
def resolve (s : String) : Except Fault Value :=
  let cs := s.toList
  let (negative, body) := sign cs
  match truth? s, double? cs with
  | some b, _ => .ok (.bool b)
  | none, some x => .ok (.float x)
  | none, none =>
    if isWhole body then do
      let n ← wholeValue (unmarked body)
      return .int (if negative then -(n : Int) else n)
    else if s == "<<" || s == "=" then .error .document
    else if isNull s then .ok .null
    else
      match written? cs with
      | some w => w.value
      | none => .ok (.text s)

end RecordRules.Yaml
