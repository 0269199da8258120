import RecordRules.Text.Quoted

/-!
# What is wrong with a regular expression

The causes for which an expression is refused, the position each is reported at, and their
wording.
-/

namespace RecordRules.Pattern

/-- A cause for refusing an expression. -/
inductive Complaint where
  | danglingEscape
  | badEscape (escape : String)
  | incompleteEscape (escape : String)
  | octalOutOfRange (escape : String)
  | missing (what : String)
  | unknownCharacterName (name : String)
  | openGroup
  | groupOfLookBehind
  | invalidReference (index : Nat)
  | unterminatedClass
  | badRange (first last : String)
  | leastAboveMost
  | nothingToRepeat
  | multipleRepeat
  | unexpectedEnd
  | unknownExtension (text : String)
  | badGroupName (name : String)
  | unknownGroup (name : String)
  | redefinedGroup (name : String) (new old : Nat)
  | badGroupNumber
  | tooManyBranches
  | lateFlags
  | unknownFlag
  | localeFlag
  | incompatibleFlags
  | globalFlag (on : Bool)
  | scriptFlagOff
  | contradictoryFlag
  | unbalanced
  | variableLookBehind
  | farLookBehind
  /-- A repetition where none may be, with the name of its kind. -/
  | repetitionInTemplate (kind : String)
  deriving DecidableEq

/-- The wording of a cause. -/
def Complaint.text : Complaint → String
  | .danglingEscape => "bad escape (end of pattern)"
  | .badEscape escape => "bad escape " ++ escape
  | .incompleteEscape escape => "incomplete escape " ++ escape
  | .octalOutOfRange escape => "octal escape value " ++ escape ++ " outside of range 0-0o377"
  | .missing what => "missing " ++ what
  | .unknownCharacterName name => "undefined character name " ++ Text.quoted name
  | .openGroup => "cannot refer to an open group"
  | .groupOfLookBehind => "cannot refer to group defined in the same lookbehind subpattern"
  | .invalidReference index => "invalid group reference " ++ toString index
  | .unterminatedClass => "unterminated character set"
  | .badRange first last => "bad character range " ++ first ++ "-" ++ last
  | .leastAboveMost => "min repeat greater than max repeat"
  | .nothingToRepeat => "nothing to repeat"
  | .multipleRepeat => "multiple repeat"
  | .unexpectedEnd => "unexpected end of pattern"
  | .unknownExtension text => "unknown extension ?" ++ text
  | .badGroupName name => "bad character in group name " ++ Text.quoted name
  | .unknownGroup name => "unknown group name " ++ Text.quoted name
  | .redefinedGroup name new old =>
    "redefinition of group name " ++ Text.quoted name ++ " as group " ++ toString new
      ++ "; was group " ++ toString old
  | .badGroupNumber => "bad group number"
  | .tooManyBranches => "conditional backref with more than two branches"
  | .lateFlags => "global flags not at the start of the expression"
  | .unknownFlag => "unknown flag"
  | .localeFlag => "bad inline flags: cannot use 'L' flag with a str pattern"
  | .incompatibleFlags => "bad inline flags: flags 'a', 'u' and 'L' are incompatible"
  | .globalFlag on =>
    "bad inline flags: cannot turn " ++ (if on then "on" else "off") ++ " global flag"
  | .scriptFlagOff => "bad inline flags: cannot turn off flags 'a', 'u' and 'L'"
  | .contradictoryFlag => "bad inline flags: flag turned on and off"
  | .unbalanced => "unbalanced parenthesis"
  | .variableLookBehind => "look-behind requires fixed-width pattern"
  | .farLookBehind => "looks too much behind"
  | .repetitionInTemplate kind => "internal: unsupported template operator " ++ kind

/-- What a refused expression is refused for. -/
inductive Flaw where
  /-- A cause with the position it is reported at, where it has one. -/
  | malformed (complaint : Complaint) (position : Option Nat)
  /-- A number of repetitions beyond what is counted. -/
  | tooManyRepetitions
  /-- A code point in hexadecimal that does not fit into a signed word of 32 bits. -/
  | codePointTooLarge
  /-- The whole expression is to be read by ASCII and by all scripts at once. -/
  | contradictoryScripts

/-- Where a position lies in an expression of several lines: the line, and the column in it. -/
def lineAndColumn (source : List Char) (position : Nat) : Nat × Nat :=
  let before := source.take position
  let line := before.filter (· == '\n')
  (line.length + 1, (before.reverse.takeWhile (· != '\n')).length + 1)

/-- The wording of a flaw of an expression. -/
def Flaw.text (source : String) : Flaw → String
  | .tooManyRepetitions => "the repetition number is too large"
  | .codePointTooLarge => "Python int too large to convert to C int"
  | .contradictoryScripts => "ASCII and UNICODE flags are incompatible"
  | .malformed complaint none => complaint.text
  | .malformed complaint (some position) =>
    let place := complaint.text ++ " at position " ++ toString position
    if source.toList.contains '\n' then
      let (line, column) := lineAndColumn source.toList position
      place ++ " (line " ++ toString line ++ ", column " ++ toString column ++ ")"
    else place

end RecordRules.Pattern
