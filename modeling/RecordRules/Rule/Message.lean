/-!
# Messages

The text of a failure as it is composed: clauses are appended, or a whole sentence replaces what
was composed so far. Meanwhile the text can be asked for, as it is or finished.
-/

namespace RecordRules

/-- Whether a message still begins with its first words. -/
inductive MessageState where
  | prefixed
  | replaced
  deriving DecidableEq

/-- The word for a state. -/
def MessageState.text : MessageState → String
  | .prefixed => "prefixed"
  | .replaced => "replaced"

/-- A message under composition. -/
structure Message where
  text : String
  state : MessageState
  deriving DecidableEq

/-- What a step of the composition does: it adds a clause or replaces the whole. -/
inductive Edit where
  | append (clause : String)
  | replace (sentence : String)
  deriving DecidableEq

/-- What is asked of a message: a step of its composition, its text as it is, or the finished text. -/
inductive Request where
  | edit (step : Edit)
  | text
  | finish
  deriving DecidableEq

namespace Message

/-- A message with its first words. -/
def begun (text : String) : Message := ⟨text, .prefixed⟩

/-- The beginning of every failure. -/
def start : Message := begun "must be"

/-- The message with a clause at the end. -/
def append (m : Message) (clause : String) : Message := { m with text := m.text ++ clause }

/-- The message with another text. -/
def replace (_ : Message) (sentence : String) : Message := ⟨sentence, .replaced⟩

/-- The message after a step. -/
def edit (m : Message) : Edit → Message
  | .append clause => m.append clause
  | .replace sentence => m.replace sentence

/-- The text with the period that ends it. -/
def finish (m : Message) : String := m.text ++ "."

/-- What a message answers to a request, and the message after it. A step is answered with nothing
    but the message itself. -/
def answer (m : Message) : Request → Option String × Message
  | .edit step => (none, m.edit step)
  | .text => (some m.text, m)
  | .finish => (some m.finish, m)

/-- What a message answers to requests one after another, and the message after them. -/
def answerAll (m : Message) : List Request → List (Option String) × Message
  | [] => ([], m)
  | request :: rest =>
    let (answer, next) := m.answer request
    let (answers, last) := next.answerAll rest
    (answer :: answers, last)

end Message

end RecordRules
