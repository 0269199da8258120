import RecordRules.Rule.Bound

/-!
# The notation of operands

Rule files are plain data. A mapping with one entry stands for an operand of another kind: an
attribute, an expression, a question, or one of the words blank and present. Bounds may also be
written as words for the present time or as dates in texts.
-/

namespace RecordRules

/-- The sentinel that a word stands for. -/
def Sentinel.ofText? (word : String) : Option Sentinel :=
  [Sentinel.now, .today, .blank, .present].find? fun s => s.text == word

namespace Notation

/-- The expression that a text denotes. -/
def pattern (source : String) : Except Fault Value :=
  (Pattern.compile source).map .pattern |>.mapError (.pattern source)

/-- The condition that a word stands for. -/
def condition (word : String) : Except Fault Value :=
  match Sentinel.ofText? word with
  | some .blank => .ok (.sentinel .blank)
  | some .present => .ok (.sentinel .present)
  | _ => .error (.condition word)

/-- What a mapping of a tag to an argument stands for; nothing for other tags. -/
def tagged? (tag : String) (argument : Value) : Option (Except Fault Value) :=
  match tag with
  | "field" => some do return .field (.text (← argument.display))
  | "pattern" => some do pattern (← argument.display)
  | "method" => some do return .method (.text (← argument.display))
  | "is" => some do condition (← argument.display)
  | _ => none

mutual

/-- The operand that plain data stands for. -/
def operand : Value → Except Fault Value
  | .list items => do return .list (← operands items)
  | .dict [(.text tag, argument)] =>
    (tagged? tag argument).getD (.ok (.dict [(.text tag, argument)]))
  | v => .ok v

/-- The operand that each of several values stands for. -/
def operands : List Value → Except Fault (List Value)
  | [] => .ok []
  | v :: rest => do
    let first ← operand v
    return first :: (← operands rest)

end

/-- The date bound that plain data stands for. -/
def bound : Value → Except Fault Value
  | .text "now" => .ok (.sentinel .now)
  | .text "today" => .ok (.sentinel .today)
  | .text s => Value.readDate s
  | v => operand v

/-- Entries with their values replaced, in order. -/
def mapEntries (f : Value → Value → Except Fault Value) (entries : Entries) :
    Except Fault Entries :=
  entries.mapM fun (key, v) => do return (key, ← f key v)

/-- What the value of an option stands for. -/
def option (key value : Value) : Except Fault Value :=
  match key, value with
  | .text "before", v | .text "after", v => bound v
  | .text "matching", .text source => pattern source
  | .text "when", .dict conditions => do return .dict (← mapEntries (fun _ => operand) conditions)
  | .text "when", _ => .error .conditions
  | _, v => operand v

/-- The options that plain data stands for. -/
def options : Value → Except Fault Entries
  | .dict entries => mapEntries option entries
  | v => .error (.noAttribute v.kind "items")

end Notation

end RecordRules
