import RecordRules.Pattern.Flaw
import RecordRules.Text.Abbreviated
import RecordRules.Text.Encoding
import RecordRules.Text.Template

/-!
# Faults

Everything that can stop an evaluation: mistakes in the declaration of a rule, values of a kind
that an operation does not take, and data that a model refuses. A failed rule is not a fault.

Faults hold causes; the wording stands in one function.
-/

namespace RecordRules

/-- The family a fault belongs to. -/
inductive Family where
  | declaration
  | type
  | attribute
  | key
  | index
  | value
  | decoding
  | overflow
  | missingFile
  | pattern
  | document
  | model
  deriving DecidableEq

/-- The name a family is reported under. -/
def Family.name : Family → String
  | .declaration => "ConfigurationError"
  | .type => "TypeError"
  | .attribute => "AttributeError"
  | .key => "KeyError"
  | .index => "IndexError"
  | .value => "ValueError"
  | .decoding => "UnicodeDecodeError"
  | .overflow => "OverflowError"
  | .missingFile => "FileNotFoundError"
  | .pattern => "error"
  | .document => "YAMLError"
  | .model => "ValidationError"

/-- A step on the way to a part of some data. -/
inductive Step where
  | name (text : String)
  | index (n : Int)
  deriving DecidableEq

/-- What a model refuses in the data it is made from, and where. -/
structure Problem where
  place : List Step
  kind : String
  text : String
  /-- The form that shows what is refused. -/
  refused : String
  /-- The name of the type of what is refused. -/
  type : String
  deriving DecidableEq

/-- A part of the data that lies further in. -/
def Problem.within (step : Step) (p : Problem) : Problem := { p with place := step :: p.place }

/-- The four orderings. -/
inductive Relation where
  | less
  | lessOrEqual
  | greater
  | greaterOrEqual
  deriving DecidableEq

/-- The sign of an ordering. -/
def Relation.sign : Relation → String
  | .less => "<"
  | .lessOrEqual => "<="
  | .greater => ">"
  | .greaterOrEqual => ">="

/-- How a procedure that is called without arguments says what it lacks. -/
inductive Lack where
  /-- Its only argument. -/
  | one
  /-- Some number of arguments that are told apart by their places. -/
  | count (arguments : Nat)
  /-- The first of several arguments, of which those from some place on may be left out. -/
  | first
  /-- The same, where arguments may go by names. -/
  | firstPlace
  /-- So many arguments, or that many at least. -/
  | expected (atLeast : Bool) (arguments : Nat)
  /-- An argument of a name, which comes first. -/
  | named (argument : String)
  /-- The only argument that has no default. -/
  | withoutDefault (argument : String)
  deriving DecidableEq

/-- A number of arguments in words that go with the number. -/
def Lack.countText (arguments : Nat) : String :=
  toString arguments ++ (if arguments = 1 then " argument" else " arguments")

/-- The wording of what a procedure lacks. -/
def Lack.text (procedure : String) : Lack → String
  | one => procedure ++ "() takes exactly one argument (0 given)"
  | count arguments => procedure ++ "() takes exactly " ++ countText arguments ++ " (0 given)"
  | first => procedure ++ "() takes at least 1 argument (0 given)"
  | firstPlace => procedure ++ "() takes at least 1 positional argument (0 given)"
  | expected atLeast arguments =>
    procedure ++ " expected " ++ (if atLeast then "at least " else "") ++ countText arguments
      ++ ", got 0"
  | named argument => procedure ++ "() missing required argument '" ++ argument ++ "' (pos 1)"
  | withoutDefault argument =>
    procedure ++ "() missing 1 required positional argument: '" ++ argument ++ "'"

/-- The causes for which an evaluation stops. Kinds of values and forms of values are given as the
    text they are reported with. -/
inductive Fault where
  -- Declarations of rules
  | noDirective (field : String)
  | conditionsOfRule (field : String)
  | conditions
  | boundText (text : String)
  | bound (bound : String)
  | boundResolved (bound resolved : String)
  | direction (direction : String)
  | condition (argument : String)
  | noRules
  | rulesOfField (field : String)
  | noType (field : String)
  | typeOfField (type field : String)
  | ruleType (type : String)
  | severity (severity rule : String) (hint : Bool)
  | notMapping (path : String)
  -- Kinds of values
  | unhashable (kind : String)
  | unordered (relation : Relation) (left right : String)
  | dateWithMoment
  | momentZones
  | attributeName (kind : String)
  | notIterable (kind : String)
  | noMembership (kind : String)
  | bytesMembership
  | notIndexable (kind : String)
  | textIndex
  | listIndex (kind : String)
  | entryKind (index : Nat)
  | entryLength (index length : Nat)
  | noTextForm (kind : String)
  | operands (operator left right : String)
  | concatenation (kind other : String)
  | withoutArguments (procedure : String) (lack : Lack)
  | notCallable (kind : String)
  | noAttribute (kind name : String)
  | noRecordAttribute (name : String)
  | noModelAttribute (name : String)
  | modelOnly (name : String)
  | setAddition
  | notInteger (kind : String)
  | dateArgument
  | argumentName
  | repeatedArgument (procedure name : String)
  | repeatedNamedArgument (procedure name : String)
  | unknownArgument (procedure name : String)
  | noCollection (name : String)
  | missingKey (key : String)
  | reservedExtra (key : String)
  -- Values
  | raised (family : Family) (text : String)
  | yearRange (year : Nat)
  | monthRange
  | dayRange
  | hourRange
  | minuteRange
  | secondRange
  | zoneRange (offset : String)
  | numeral (base : Nat) (text : String)
  | dateOverflow
  | intTooBig
  | intNegative
  | intTooLargeForFloat
  | intTooLargeForCount
  | ratioOfInfinity
  | ratioOfNaN
  | emptyList
  | template (flaw : Text.TemplateFlaw)
  | encoding (flaw : Text.EncodingFlaw)
  | codePointTooLarge
  | codePointRange (limit : Nat)
  -- Texts and data from outside
  | noFile (rules : Bool) (path : String)
  | pattern (source : String) (flaw : Pattern.Flaw)
  | document
  | model (name : String) (problems : List Problem)

namespace Fault

/-- The family of a fault. -/
def family : Fault → Family
  | noDirective _ | conditionsOfRule _ | conditions | boundText _ | bound _ | boundResolved _ _
  | direction _ | condition _ | noRules | rulesOfField _ | noType _ | typeOfField _ _ | ruleType _
  | severity _ _ _ | notMapping _ => .declaration
  | unhashable _ | unordered _ _ _ | dateWithMoment | momentZones | attributeName _
  | notIterable _ | noMembership _ | bytesMembership | notIndexable _ | textIndex | listIndex _
  | entryKind _ | noTextForm _ | operands _ _ _ | concatenation _ _ | withoutArguments _ _
  | notCallable _ | setAddition | notInteger _ | dateArgument | argumentName | repeatedArgument _ _
  | repeatedNamedArgument _ _ | unknownArgument _ _ => .type
  | noAttribute _ _ | noRecordAttribute _ | noModelAttribute _ | modelOnly _ | noCollection _ =>
    .attribute
  | missingKey _ | reservedExtra _ | template (.noName _) => .key
  | emptyList | template (.noPosition _) => .index
  | raised declared _ => declared
  | entryLength _ _ | yearRange _ | monthRange | dayRange | hourRange | minuteRange | secondRange
  | zoneRange _ | numeral _ _ | codePointRange _ | ratioOfNaN | template _ => .value
  | encoding _ => .decoding
  | dateOverflow | intTooBig | intNegative | intTooLargeForFloat | intTooLargeForCount
  | ratioOfInfinity | codePointTooLarge => .overflow
  | noFile _ _ => .missingFile
  | pattern _ (.malformed _ _) => .pattern
  | pattern _ .tooManyRepetitions | pattern _ .codePointTooLarge => .overflow
  | pattern _ .contradictoryScripts => .value
  | document => .document
  | model _ _ => .model

/-- The address of the page about a kind of problem. -/
def pageAbout (kind : String) : String :=
  "/".intercalate ["https:", "", "errors.pydantic.dev", "2.14", "v", kind]

/-- A problem of a model on lines of its own: the place, unless it is the whole of the data, what is
    wrong, and where to read about it. A name with a point in it stands between grave accents. -/
def problemLines (p : Problem) : String :=
  let steps := p.place.map fun
    | .name text => if text.toList.contains '.' then "\x60" ++ text ++ "\x60" else text
    | .index n => toString n
  let place := if steps.isEmpty then "" else "\n" ++ ".".intercalate steps
  place ++ "\n  " ++ p.text ++ " [type=" ++ p.kind ++ ", input_value="
    ++ Text.abbreviated 50 p.refused ++ ", input_type=" ++ p.type
    ++ "]\n    For further information visit " ++ pageAbout p.kind

/-- The wording of a fault. -/
def message : Fault → String
  | noDirective field =>
    "must_be rule for '" ++ field ++ "' requires at least one comparison directive"
  | conditionsOfRule field =>
    "Invalid 'when' option for '" ++ field ++ "': must be a mapping of field to condition"
  | conditions => "'when' must be a mapping of field to condition"
  | boundText text => "Invalid date bound '" ++ text ++ "'"
  | bound shown =>
    "Invalid date bound " ++ shown ++ ": expected a date, datetime, Field, NOW, TODAY or callable"
  | boundResolved shown resolved =>
    "Date bound " ++ shown ++ " resolved to " ++ resolved
      ++ ", expected a date, datetime or ISO date string"
  | direction word => "Unknown bound direction '" ++ word ++ "'"
  | condition argument => "Unknown condition 'is: " ++ argument ++ "', expected blank or present"
  | noRules => "Configuration file must contain 'rules' section"
  | rulesOfField field => "Rules for field '" ++ field ++ "' must be a list"
  | noType field => "Rule for field '" ++ field ++ "' is missing 'type'"
  | typeOfField type field => "Unknown rule type '" ++ type ++ "' for field '" ++ field ++ "'"
  | ruleType type => "Unknown rule type: " ++ type
  | severity word rule hint =>
    "Invalid severity '" ++ word ++ "' for rule '" ++ rule ++ "'"
      ++ (if hint then ". Must be 'error' or 'warning'" else "")
  | notMapping path => "Configuration file " ++ path ++ " must contain a mapping"
  | unhashable kind => "unhashable type: '" ++ kind ++ "'"
  | unordered relation left right =>
    "'" ++ relation.sign ++ "' not supported between instances of '" ++ left ++ "' and '" ++ right
      ++ "'"
  | dateWithMoment => "can't compare datetime.datetime to datetime.date"
  | momentZones => "can't compare offset-naive and offset-aware datetimes"
  | attributeName kind => "attribute name must be string, not '" ++ kind ++ "'"
  | notIterable kind => "'" ++ kind ++ "' object is not iterable"
  | noMembership kind => "argument of type '" ++ kind ++ "' is not iterable"
  | bytesMembership => "a bytes-like object is required, not 'str'"
  | notIndexable kind => "'" ++ kind ++ "' object is not subscriptable"
  | textIndex => "string indices must be integers, not 'str'"
  | listIndex kind => kind ++ " indices must be integers or slices, not str"
  | entryKind index =>
    "cannot convert dictionary update sequence element #" ++ toString index ++ " to a sequence"
  | entryLength index length =>
    "dictionary update sequence element #" ++ toString index ++ " has length " ++ toString length
      ++ "; 2 is required"
  | noTextForm kind => "__str__ returned non-string (type " ++ kind ++ ")"
  | operands operator left right =>
    "unsupported operand type(s) for " ++ operator ++ ": '" ++ left ++ "' and '" ++ right ++ "'"
  | concatenation "bytes" other => "can't concat " ++ other ++ " to bytes"
  | concatenation kind other =>
    "can only concatenate " ++ kind ++ " (not \"" ++ other ++ "\") to " ++ kind
  | withoutArguments procedure lack => lack.text procedure
  | notCallable kind => "'" ++ kind ++ "' object is not callable"
  | noAttribute kind name => "'" ++ kind ++ "' object has no attribute '" ++ name ++ "'"
  | noRecordAttribute name => "'DataRecord' object has no attribute " ++ Text.quoted name
  | noModelAttribute name => name
  | modelOnly name => Text.quoted name ++ " attribute of 'DataRecord' is class-only"
  | setAddition => "set.add() takes no keyword arguments"
  | notInteger kind => "'" ++ kind ++ "' object cannot be interpreted as an integer"
  | dateArgument => "fromisoformat: argument must be str"
  | argumentName => "keywords must be strings"
  | repeatedArgument procedure name =>
    procedure ++ "() got multiple values for argument '" ++ name ++ "'"
  | repeatedNamedArgument procedure name =>
    procedure ++ "() got multiple values for keyword argument '" ++ name ++ "'"
  | unknownArgument procedure name =>
    procedure ++ "() got an unexpected keyword argument '" ++ name ++ "'"
  | noCollection name => "DataRecord has no error collection named '" ++ name ++ "'"
  | missingKey key => Text.quoted key
  | reservedExtra key => Text.quoted ("Attempt to overwrite " ++ Text.quoted key ++ " in LogRecord")
  | raised _ text => text
  | yearRange year => "year " ++ toString year ++ " is out of range"
  | monthRange => "month must be in 1..12"
  | dayRange => "day is out of range for month"
  | hourRange => "hour must be in 0..23"
  | minuteRange => "minute must be in 0..59"
  | secondRange => "second must be in 0..59"
  | zoneRange offset =>
    "offset must be a timedelta strictly between -timedelta(hours=24) and timedelta(hours=24), not "
      ++ offset ++ "."
  | numeral base text =>
    "invalid literal for int() with base " ++ toString base ++ ": " ++ Text.quoted text
  | dateOverflow => "date value out of range"
  | intTooBig => "int too big to convert"
  | intNegative => "can't convert negative int to unsigned"
  | intTooLargeForFloat => "int too large to convert to float"
  | intTooLargeForCount => "cannot fit 'int' into an index-sized integer"
  | ratioOfInfinity => "cannot convert Infinity to integer ratio"
  | ratioOfNaN => "cannot convert NaN to integer ratio"
  | emptyList => "pop from empty list"
  | template flaw => flaw.text
  | encoding flaw => flaw.text
  | codePointTooLarge => "Python int too large to convert to C int"
  | codePointRange limit =>
    "chr() arg not in range(0x" ++ String.ofList (Nat.toDigits 16 limit) ++ ")"
  | noFile rules path =>
    (if rules then "Rule configuration" else "Configuration") ++ " file not found: " ++ path
  | pattern source flaw => flaw.text source
  | document => "malformed document"
  | model name problems =>
    toString problems.length ++ " validation error" ++ (if problems.length = 1 then "" else "s")
      ++ " for " ++ name ++ String.join (problems.map problemLines)

end Fault

end RecordRules
