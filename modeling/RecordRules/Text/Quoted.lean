import RecordRules.Text.Printable

/-!
# Quoted text

The quoted form of a text and of a byte string. Single quotes enclose it, or double quotes when
it holds single ones alone; a backslash escapes the enclosing quote, itself, and every character
that would not show.
-/

namespace RecordRules.Text

/-- A number in hexadecimal with at least the given number of digits. -/
def hex (width n : Nat) : List Char :=
  let digits := Nat.toDigits 16 n
  List.replicate (width - digits.length) '0' ++ digits

/-- The quote that encloses a content: double only around single quotes alone. -/
def enclosingQuote (cs : List Char) : Char :=
  if cs.contains '\'' && !cs.contains '"' then '"' else '\''

/-- One character inside quotes; `shown` says which characters beyond ASCII stand for themselves. -/
def escaped (shown : Char → Bool) (quote c : Char) : List Char :=
  if c == quote || c == '\\' then ['\\', c]
  else if c == '\n' then ['\\', 'n']
  else if c == '\r' then ['\\', 'r']
  else if c == '\t' then ['\\', 't']
  else if 32 ≤ c.toNat && c.toNat < 127 then [c]
  else if 127 < c.toNat && shown c then [c]
  else if c.toNat ≤ 0xff then '\\' :: 'x' :: hex 2 c.toNat
  else if c.toNat ≤ 0xffff then '\\' :: 'u' :: hex 4 c.toNat
  else '\\' :: 'U' :: hex 8 c.toNat

/-- The characters between the quotes, and the quotes. -/
def enclosed (shown : Char → Bool) (cs : List Char) : List Char :=
  let quote := enclosingQuote cs
  quote :: (cs.flatMap (escaped shown quote) ++ [quote])

/-- A text in quotes. -/
def quoted (s : String) : String :=
  String.ofList (enclosed printable.contains s.toList)

/-- A byte string in quotes, marked by a leading `b`; bytes beyond ASCII are escaped. -/
def quotedBytes (bytes : List UInt8) : String :=
  String.ofList ('b' :: enclosed (fun _ => false) (bytes.map fun b => Char.ofNat b.toNat))

end RecordRules.Text
