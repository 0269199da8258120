import RecordRules.Calendar.Moment

/-!
# Written dates and moments

The ISO form of a date and of a moment: fixed widths, seconds always, microseconds and the
seconds of an offset only where they are not zero.
-/

namespace RecordRules

namespace Calendar

/-- A number with at least the given number of decimal digits. -/
def padded (width n : Nat) : List Char :=
  let digits := Nat.toDigits 10 n
  List.replicate (width - digits.length) '0' ++ digits

/-- A fraction of a second, where there is one. -/
def fraction (microsecond : Nat) : List Char :=
  if microsecond = 0 then [] else '.' :: padded 6 microsecond

/-- An offset as sign, hours and minutes, with seconds where needed. -/
def offsetText : Option Int → List Char
  | none => []
  | some offset =>
    let size := offset.natAbs
    let rest := size % (60 * second)
    (if offset < 0 then '-' else '+') :: padded 2 (size / (3600 * second)) ++
      ':' :: padded 2 (size / (60 * second) % 60) ++
      (if rest = 0 then [] else ':' :: padded 2 (rest / second) ++ fraction (rest % second))

end Calendar

open Calendar

/-- Year, month and day. -/
def Date.characters (d : Date) : List Char :=
  padded 4 d.year ++ '-' :: padded 2 d.month ++ '-' :: padded 2 d.day

/-- Year, month and day as text. -/
def Date.text (d : Date) : String := String.ofList d.characters

namespace Moment

/-- Hours, minutes, seconds, their fraction and the offset. -/
def clockCharacters (m : Moment) : List Char :=
  padded 2 m.hour ++ ':' :: padded 2 m.minute ++ ':' :: padded 2 m.seconds ++
    fraction m.microsecond ++ offsetText m.offset

/-- Date and time of day with a character between them. -/
def textWith (between : Char) (m : Moment) : String :=
  String.ofList (m.date.characters ++ between :: m.clockCharacters)

/-- The ISO form, with a `T`. -/
def isoText : Moment → String := textWith 'T'

/-- The form for reading, with a space. -/
def text : Moment → String := textWith ' '

end Moment

end RecordRules
