import RecordRules.Named
import RecordRules.Value.Basic

/-!
# Notes

What an evaluation writes into the journal: a level, a text, and named values.
-/

namespace RecordRules

/-- The levels of notes, from the least. -/
inductive Level where
  | debug
  | info
  | warning
  | error
  | critical
  deriving DecidableEq

namespace Level

/-- The word for a level. -/
def text : Level → String
  | debug => "DEBUG"
  | info => "INFO"
  | warning => "WARNING"
  | error => "ERROR"
  | critical => "CRITICAL"

/-- The levels as numbers, in steps of ten. -/
def rank : Level → Nat
  | debug => 10
  | info => 20
  | warning => 30
  | error => 40
  | critical => 50

/-- The level that a word in capitals stands for. -/
def ofText? (s : String) : Option Level :=
  [debug, info, warning, error, critical].find? fun level => level.text == s

end Level

/-- One note. -/
structure Note where
  level : Level
  text : String
  extras : Named Value

end RecordRules
