import RecordRules.Model.Checked
import RecordRules.Text.Upper

/-!
# Entries and error collections

A failed rule leaves an entry: the attribute, the message without its name, and further data. A
collection keeps entries in the order in which they were added.
-/

namespace RecordRules

/-- The name of an attribute for reading: spaces for underscores, and a capital at the start. -/
def humanize (name : String) : String :=
  let spaced := Text.strip (String.ofList (name.toList.map fun c => if c == '_' then ' ' else c))
  match spaced.toList with
  | [] => ""
  | c :: rest => String.ofList (Text.upperChar c ++ rest)

/-- The name of an attribute for reading, which must be a text. -/
def humanizeValue : Value → Except Fault String
  | .text name => .ok (humanize name)
  | .bytes _ => .error .bytesMembership
  | .date _ | .moment _ => .error (.notInteger "str")
  | v => .error (.noAttribute v.kind "replace")

/-- One failed rule on one attribute. -/
structure Entry where
  /-- The name of the attribute. -/
  name : String
  message : String
  metadata : Named Value

namespace Entry

/-- The name of the rule that failed, if the entry tells it. -/
def ruleName (e : Entry) : Value := (e.metadata.lookup "rule_name").getD .null

/-- The message with the name of the attribute before it. -/
def fullMessage (e : Entry) : String := humanize e.name ++ " " ++ e.message

/-- An entry from its fields. -/
def ofFields (fields : Entries) : Checked Entry :=
  (Checked.both (fields.required "attribute" Value.asText)
    (Checked.both (fields.required "message" Value.asText)
      (fields.optional "metadata" [] (Value.asNamed .ok)))).map
    fun (name, message, metadata) => Entry.mk name message metadata

/-- An entry from a mapping of its fields. -/
def ofValue (v : Value) : Checked Entry := do ofFields (← v.asFields "ErrorEntry")

/-- The entry for an attribute and a message, which must be texts. -/
def make (name message : Value) (metadata : Named Value) : Except Fault Entry :=
  Checked.orFault "ErrorEntry"
    ((Checked.both (Checked.within (.name "attribute") name.asText)
      (Checked.within (.name "message") message.asText)).map
        fun (name, message) => Entry.mk name message metadata)

/-- The entry for an attribute and a message with further data, given as arguments by name. -/
def withData (name message : Value) (data : Entries) : Except Fault Entry := do
  let placed := ["self", "attribute", "message"]
  make name message (← Arguments.besides "Errors.add" placed (← data.asArguments))

end Entry

/-- The entries of a collection from a mapping of its fields. -/
def Entry.listOfFields (fields : Entries) : Checked (List Entry) :=
  fields.optional "entries" [] (Value.asListOf Entry.ofValue)

/-- The messages of the entries for an attribute. -/
def messagesFor (name : Value) (entries : List Entry) : List String :=
  (entries.filter fun e => Value.same (.text e.name) name).map (·.message)

/-- The full messages of entries in order. -/
def fullMessages (entries : List Entry) : List String := entries.map Entry.fullMessage

/-- The rule names that entries tell. -/
def ruleNames (entries : List Entry) : List Value :=
  (entries.map Entry.ruleName).filter Value.truthy

end RecordRules
