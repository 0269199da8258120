import RecordRules.Value.Mapping

/-!
# Words that a value mentions

A mapping mentions its keys, a collection its members, and a text every part of it.
-/

namespace RecordRules

/-- Whether some characters stand next to each other somewhere in others. -/
def Text.holds (part : List Char) : List Char → Bool
  | [] => part.isEmpty
  | c :: rest => part.isPrefixOf (c :: rest) || holds part rest

namespace Value

/-- Whether a value mentions a word: as a key, as a member, or within a text. -/
def mentions (word : String) : Value → Except Fault Bool
  | dict entries => .ok (Entries.get? entries (.text word)).isSome
  | list items | tuple items | set items | keys items => .ok ((text word).memberOf items)
  | range _ => .ok false
  | text s => .ok (Text.holds word.toList s.toList)
  | bytes _ => .error .bytesMembership
  | v => .error (.noMembership v.kind)

end Value

end RecordRules
