import RecordRules.Text.Alphabetic
import RecordRules.Text.Blank
import RecordRules.Text.Cased
import RecordRules.Text.Numeric

/-!
# What a text consists of

Predicates on characters and on whole texts, and texts without white space at their ends. A
predicate such as "all letters" does not hold of the empty text.
-/

namespace RecordRules.Text

/-- White space of every script. -/
def isSpace (c : Char) : Bool := whitespace.contains c

/-- A letter of any script. -/
def isLetter (c : Char) : Bool := alphabetic.contains c

/-- A decimal digit of any script. -/
def isDecimal (c : Char) : Bool := decimalDigits.contains c

/-- A letter or a character with a numeric value. -/
def isLetterOrNumeral (c : Char) : Bool := isLetter c || numerals.contains c

/-- A character of a word: a letter, a numeral or the underscore. -/
def isWordChar (c : Char) : Bool := isLetterOrNumeral c || c == '_'

/-- The value of a decimal digit of any script: digits stand in order, each ten of them beginning at
    zero. -/
def decimalValue? (c : Char) : Option Nat :=
  if isDecimal c then some ((c.toNat - decimalDigits.startOf c) % 10) else none

/-- The value of decimal digits, two of which may have an underscore between them. The first
    argument is what has been read, and the second says whether a digit came last. -/
def digitsValue? (sofar : Nat) (afterDigit : Bool) : List Char → Option Nat
  | [] => if afterDigit then some sofar else none
  | c :: rest =>
    if c == '_' then if afterDigit then digitsValue? sofar false rest else none
    else (decimalValue? c).bind fun d => digitsValue? (10 * sofar + d) true rest

/-- Nothing but white space, or nothing at all. -/
def isBlank (s : String) : Bool := s.toList.all isSpace

/-- The text without white space at its beginning and its end. -/
def strip (s : String) : String :=
  String.ofList ((s.toList.dropWhile isSpace).reverse.dropWhile isSpace).reverse

/-- A whole number in digits of any script, with or without a sign and white space around it. -/
def wholeNumber? (s : String) : Option Int :=
  match (strip s).toList with
  | '-' :: rest => (digitsValue? 0 false rest).map fun n => -(n : Int)
  | '+' :: rest => (digitsValue? 0 false rest).map Int.ofNat
  | rest => (digitsValue? 0 false rest).map Int.ofNat

/-- At least one character, and all of them in a class. -/
def consistsOf (p : Char → Bool) (s : String) : Bool :=
  !s.toList.isEmpty && s.toList.all p

/-- At least one upper-case character, and none in lower or title case. -/
def isUpper (s : String) : Bool :=
  s.toList.any uppercase.contains
    && s.toList.all fun c => !(lowercase.contains c || titlecase.contains c)

/-- At least one lower-case character, and none in upper or title case. -/
def isLower (s : String) : Bool :=
  s.toList.any lowercase.contains
    && s.toList.all fun c => !(uppercase.contains c || titlecase.contains c)

/-- Whether characters go on as words that begin with a capital and have no other one. The first
    arguments say whether the character before was a letter with a case, and whether any was. -/
def goesOnTitled (afterCased anyCased : Bool) : List Char → Bool
  | [] => anyCased
  | c :: rest =>
    if uppercase.contains c || titlecase.contains c then !afterCased && goesOnTitled true true rest
    else if lowercase.contains c then afterCased && goesOnTitled true true rest
    else goesOnTitled false anyCased rest

/-- At least one word, and each of them with a capital at its beginning and nowhere else. -/
def isTitle (s : String) : Bool := goesOnTitled false false s.toList

end RecordRules.Text
