import RecordRules.Pattern.Reading
import RecordRules.Pattern.Search

/-!
# Compiled regular expressions

A compiled expression keeps the text it was read from, which is what it is shown as and what it
is compared by: one text has one meaning.
-/

namespace RecordRules

/-- A regular expression with the text it was read from. -/
structure Pattern where
  source : String
  node : Pattern.Node
  mode : Pattern.Mode

namespace Pattern

/-- The expression that a text denotes. -/
def compile (source : String) : Except Flaw Pattern := do
  let (node, mode) ← read source
  pure ⟨source, node, mode⟩

/-- Whether an expression matches somewhere in a text. -/
def occursIn (p : Pattern) (s : String) : Bool := p.node.occursIn s

/-- The names of the modes in force. -/
def Mode.names (mode : Mode) : List String :=
  [(mode.template, "re.TEMPLATE"), (mode.ignoreCase, "re.IGNORECASE"),
    (mode.multiLine, "re.MULTILINE"), (mode.dotAll, "re.DOTALL"), (mode.verbose, "re.VERBOSE"),
    (mode.ascii, "re.ASCII")].filterMap
    fun (on, name) => if on then some name else none

/-- The form that shows what an expression is made of; of its text at most 200 characters. -/
def literal (p : Pattern) : String :=
  let source := String.ofList ((Text.quoted p.source).toList.take 200)
  let modes := if p.mode.names.isEmpty then "" else ", " ++ "|".intercalate p.mode.names
  "re.compile(" ++ source ++ modes ++ ")"

/-- Compiling keeps the text. -/
theorem source_of_compile {source : String} {p : Pattern} (h : compile source = .ok p) :
    p.source = source := by
  unfold compile at h
  cases r : read source with
  | error e => rw [r] at h; cases h
  | ok found => rw [r] at h; cases h; rfl

end Pattern

end RecordRules
