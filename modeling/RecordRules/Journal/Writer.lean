import RecordRules.Journal.Operation
import RecordRules.Text.Upper
import RecordRules.Trial
import RecordRules.Value.Arguments

/-!
# Writing the journal

A writer takes notes from some level on, and writes each as one line: as named fields, or as words.
It is set up with a level and a form; without a level it takes the one of its surroundings.
-/

namespace RecordRules

/-- How notes are written. -/
inductive LineForm where
  | fields
  | words
  deriving DecidableEq

/-- What writes the notes: the least level that is written, and how. -/
structure Writer where
  level : Level
  form : LineForm
  deriving DecidableEq

/-- A written note. -/
inductive Line where
  | fields (fields : Named Value)
  | words (level text : String)

namespace Level

/-- The level that a text stands for: a word in any case, and the level of information for every
    other text. -/
def ofText (s : String) : Level := (ofText? (Text.upper s)).getD .info

/-- The level that a value asks for; the surroundings stand in for a value that counts as false. -/
def ofSetting (surroundings : Option String) (setting : Value) : Except Fault Level :=
  if setting.truthy then
    match setting with
    | .text s => .ok (ofText s)
    | v => .error (.noAttribute v.kind "upper")
  else .ok (ofText (surroundings.getD info.text))

end Level

/-- The form that a value asks for. -/
def LineForm.ofSetting : Value → LineForm
  | .text "json" => .fields
  | _ => .words

namespace Writer

/-- The writer that settings ask for. -/
def ofSettings (surroundings : Option String) (level form : Value) : Except Fault Writer := do
  let level ← Level.ofSetting surroundings level
  return ⟨level, LineForm.ofSetting form⟩

/-- The writer that settings given by name ask for. -/
def ofArguments (surroundings : Option String) (settings : Named Value) : Except Fault Writer := do
  Arguments.among "setup_logger" ["name"] ["level", "format_type"] settings
  ofSettings surroundings ((settings.lookup "level").getD .null)
    ((settings.lookup "format_type").getD (.text "json"))

/-- A writer as it was set up before, or one with the usual settings. -/
def kept (surroundings : Option String) : Option Writer → Except Fault Writer
  | some w => .ok w
  | none => ofSettings surroundings .null (.text "json")

/-! ## Notes -/

/-- The names that a note has for its own parts. -/
def reservedNames : List String :=
  ["name", "msg", "args", "levelname", "levelno", "pathname", "filename", "module", "exc_info",
    "exc_text", "stack_info", "lineno", "funcName", "created", "msecs", "relativeCreated", "thread",
    "threadName", "processName", "process", "message", "asctime"]

/-- The least level of the notes that are taken; without a writer only warnings are. -/
def threshold : Option Writer → Level
  | some w => w.level
  | none => .warning

/-- Takes a note, if it has the level for it. Its named values may not have reserved names. -/
def take (writer : Option Writer) (note : Note) : Trial Unit :=
  if note.level.rank < (threshold writer).rank then pure ()
  else
    match note.extras.find? fun (name, _) => reservedNames.contains name with
    | some (name, _) => throw (.reservedExtra name)
    | none => ⟨[note], [], .ok ()⟩

/-! ## Lines -/

/-- The level that a line shows: one among the named values in capitals, or that of the note. It
    cannot be shown if the value is no text. -/
def shownLevel? (note : Note) : Option String :=
  match (note.extras.lookup "level").getD .null with
  | .text s => some (if s = "" then note.level.text else Text.upper s)
  | v => if v.truthy then none else some note.level.text

/-- The fields of a line. Named values come after the parts of the note, but for a level and a time
    of their own; those whose name begins with an underscore are left out. -/
def fields? (name time : String) (note : Note) : Option (Named Value) := do
  let level ← shownLevel? note
  let time := ((note.extras.lookup "timestamp").getD .null).orElse (.text time)
  let parts := [("timestamp", time), ("level", .text level), ("logger", .text name),
    ("message", .text note.text)]
  some (parts ++ note.extras.filter fun (name, _) =>
    (parts.lookup name).isNone && name.toList.head? != some '_')

/-- The line for a note; nothing if it cannot be written. -/
def line? (w : Writer) (name time : String) (note : Note) : Option Line :=
  match w.form with
  | .fields => (fields? name time note).map .fields
  | .words => some (.words note.level.text note.text)

/-- The lines for notes, under the name of the journal and at a time. -/
def lines (writer : Option Writer) (name time : String) (notes : List Note) : List Line :=
  match writer with
  | some w => notes.filterMap (w.line? name time)
  | none => []

end Writer

end RecordRules
