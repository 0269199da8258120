/-!
# Encoded text

Bytes encode a text as UTF-8 if every character is one byte, or a first byte with the one, two or
three further bytes that it asks for. What the second byte may be depends on the first one: no
character is encoded longer than it need be, and none is a surrogate.
-/

namespace RecordRules.Text

/-- Why bytes encode no text. -/
inductive EncodingReason where
  | firstByte
  | furtherByte
  | endOfData
  deriving DecidableEq

/-- Where bytes first fail to encode a character: the place and the value of the byte that it would
    begin with, and how many bytes there are that could belong to it. -/
structure EncodingFlaw where
  start : Nat
  first : UInt8
  length : Nat
  reason : EncodingReason
  deriving DecidableEq

/-- The wording of a reason. -/
def EncodingReason.text : EncodingReason → String
  | firstByte => "invalid start byte"
  | furtherByte => "invalid continuation byte"
  | endOfData => "unexpected end of data"

/-- The wording of a flaw. -/
def EncodingFlaw.text (flaw : EncodingFlaw) : String :=
  let digits := Nat.toDigits 16 flaw.first.toNat
  "'utf-8' codec can't decode "
    ++ (if flaw.length = 1 then
          "byte 0x" ++ String.ofList digits ++ " in position " ++ toString flaw.start
        else "bytes in position " ++ toString flaw.start ++ "-"
          ++ toString (flaw.start + flaw.length - 1))
    ++ ": " ++ flaw.reason.text

namespace Encoding

/-- A character that has begun: where, with which byte, how many bytes it has and how many more it
    asks for, and the least and the greatest that the next one may be. -/
structure Begun where
  start : Nat
  first : UInt8
  length : Nat
  owed : Nat
  least : UInt8
  greatest : UInt8

/-- The bytes that a first byte asks for, and the bounds of the next one; nothing for a byte that
    begins no character. -/
def owed? (first : UInt8) : Option (Nat × UInt8 × UInt8) :=
  if first < 0x80 then some (0, 0x80, 0xBF)
  else if first < 0xC2 then none
  else if first < 0xE0 then some (1, 0x80, 0xBF)
  else if first == 0xE0 then some (2, 0xA0, 0xBF)
  else if first == 0xED then some (2, 0x80, 0x9F)
  else if first < 0xF0 then some (2, 0x80, 0xBF)
  else if first == 0xF0 then some (3, 0x90, 0xBF)
  else if first < 0xF4 then some (3, 0x80, 0xBF)
  else if first == 0xF4 then some (3, 0x80, 0x8F)
  else none

/-- The first flaw of bytes from a place on, where a character may have begun. -/
def flaw? (place : Nat) : Option Begun → List UInt8 → Option EncodingFlaw
  | none, [] => none
  | some c, [] => some ⟨c.start, c.first, c.length, .endOfData⟩
  | none, b :: rest =>
    match owed? b with
    | none => some ⟨place, b, 1, .firstByte⟩
    | some (0, _, _) => flaw? (place + 1) none rest
    | some (owed, least, greatest) =>
      flaw? (place + 1) (some ⟨place, b, 1, owed, least, greatest⟩) rest
  | some c, b :: rest =>
    if b < c.least || c.greatest < b then some ⟨c.start, c.first, c.length, .furtherByte⟩
    else if c.owed = 1 then flaw? (place + 1) none rest
    else
      flaw? (place + 1)
        (some { c with length := c.length + 1, owed := c.owed - 1, least := 0x80, greatest := 0xBF })
        rest

end Encoding

end RecordRules.Text
