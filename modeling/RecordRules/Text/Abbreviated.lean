/-!
# Long texts cut short

A text that takes more bytes than there is room for keeps its beginning and its end, and three
points stand for what is left out. Characters are never divided.
-/

namespace RecordRules.Text

/-- The characters at the beginning that take no more bytes than there is room for. -/
def fitting : Nat → List Char → List Char
  | _, [] => []
  | room, c :: rest =>
    if c.utf8Size ≤ room then c :: fitting (room - c.utf8Size) rest else []

/-- A text of at most `limit` bytes as it is; of a longer one half of them from the beginning and,
    but for one byte, half of them from the end. -/
def abbreviated (limit : Nat) (s : String) : String :=
  if s.utf8ByteSize ≤ limit then s
  else
    let half := (limit + 1) / 2
    String.ofList (fitting half s.toList) ++ "..."
      ++ String.ofList (fitting (half - 1) s.toList.reverse).reverse

end RecordRules.Text
