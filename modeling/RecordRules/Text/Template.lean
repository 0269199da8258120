import RecordRules.Text.Category
import RecordRules.Text.Quoted

/-!
# Templates

A text with fields in braces, each to be filled with something that goes by a position or by a name;
doubled braces stand for themselves. Here nothing is there to fill a field with, so the first field
of a template is a flaw, if it is not malformed already.
-/

namespace RecordRules.Text

/-- Why a template cannot be filled. -/
inductive TemplateFlaw where
  | lone (brace : Char)
  | braceInName
  | noConversion
  | noColon
  | openFormat
  | openField
  | largePosition
  | noPosition (position : Nat)
  | noName (name : String)
  deriving DecidableEq

/-- The wording of a flaw. -/
def TemplateFlaw.text : TemplateFlaw → String
  | lone brace => "Single '" ++ brace.toString ++ "' encountered in format string"
  | braceInName => "unexpected '\x7b' in field name"
  | noConversion => "end of string while looking for conversion specifier"
  | noColon => "expected ':' after conversion specifier"
  | openFormat => "unmatched '\x7b' in format spec"
  | openField => "expected '\x7d' before end of string"
  | largePosition => "Too many decimal digits in format string"
  | noPosition position =>
    "Replacement index " ++ toString position ++ " out of range for positional args tuple"
  | noName name => quoted name

namespace Template

/-- The largest position that there may be. -/
def largestPosition : Nat := Nat.pow 2 63 - 1

/-- The flaw of a well-formed field: nothing is in its position, or under its name if it is not in
    digits. The first argument is what its digits have amounted to. -/
def unfilled (sofar : Nat) (name : List Char) : List Char → TemplateFlaw
  | [] => .noPosition sofar
  | c :: rest =>
    match decimalValue? c with
    | none => .noName (String.ofList name)
    | some d =>
      if largestPosition < 10 * sofar + d then .largePosition else unfilled (10 * sofar + d) name rest

/-- The flaw of a field whose format is to come to its end, with the number of braces to be closed
    besides its own. -/
def formatFlaw (filled : TemplateFlaw) (depth : Nat) : List Char → TemplateFlaw
  | [] => .openFormat
  | c :: rest =>
    if c == '\x7b' then formatFlaw filled (depth + 1) rest
    else if c == '\x7d' then
      match depth with
      | 0 => filled
      | depth + 1 => formatFlaw filled depth rest
    else formatFlaw filled depth rest

/-- The flaw of a field after the mark for a conversion. -/
def conversionFlaw (filled : TemplateFlaw) : List Char → TemplateFlaw
  | [] => .noConversion
  | [_] => .openFormat
  | _ :: c :: rest =>
    if c == '\x7d' then filled
    else if c == ':' then formatFlaw filled 0 rest
    else .noColon

/-- The flaw of a field. Its name ends at a point or a bracket; what is in brackets is not looked at.
    The first arguments are what has been read of it, and whether that is in brackets. -/
def fieldFlaw (read : List Char) (inBrackets : Bool) : List Char → TemplateFlaw
  | [] => .openField
  | c :: rest =>
    let name := read.takeWhile fun c => c != '.' && c != '['
    let filled := unfilled 0 name name
    if inBrackets then fieldFlaw (read ++ [c]) (c != ']') rest
    else if c == '\x7b' then .braceInName
    else if c == '\x7d' then filled
    else if c == ':' then formatFlaw filled 0 rest
    else if c == '!' then conversionFlaw filled rest
    else fieldFlaw (read ++ [c]) (c == '[') rest

/-- The first flaw of a template that there is nothing to fill with. -/
def flaw? : List Char → Option TemplateFlaw
  | [] => none
  | '\x7b' :: '\x7b' :: rest | '\x7d' :: '\x7d' :: rest => flaw? rest
  | ['\x7b'] => some (.lone '\x7b')
  | '\x7b' :: rest => some (fieldFlaw [] false rest)
  | '\x7d' :: _ => some (.lone '\x7d')
  | _ :: rest => flaw? rest

end Template

end RecordRules.Text
