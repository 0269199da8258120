import RecordRules.Calendar.Written
import RecordRules.Fault
import RecordRules.Number.Shortest
import RecordRules.Value.Basic

/-!
# The texts of a value

A value has two texts: the literal form shows what it is made of, and the display form is what
messages use. They differ for texts, dates, sentinels and references; inside a collection the
literal form is used.
-/

namespace RecordRules

/-- The word a sentinel stands for. -/
def Sentinel.text : Sentinel → String
  | .now => "now"
  | .today => "today"
  | .blank => "blank"
  | .present => "present"

/-- The literal form of a sentinel: its word in capitals and as it is. -/
def Sentinel.literal (s : Sentinel) : String :=
  "<Sentinel." ++ s.text.toUpper ++ ": '" ++ s.text ++ "'>"

/-- The word for what a formula does. -/
def Formula.label {α : Type} : Formula α → String
  | .constant _ => "const"
  | .current _ => "attr"
  | .received _ => "raw"
  | .known _ => "has"
  | .sum _ _ => "add"
  | .product _ _ => "mul"
  | .failure _ _ => "raise"

/-- Bounds, and the step if it is not one. -/
def Progression.literal (p : Progression) : String :=
  "range(" ++ toString p.start ++ ", " ++ toString p.stop
    ++ (if p.step = 1 then "" else ", " ++ toString p.step) ++ ")"

/-- Year, month and day as numbers. -/
def Date.literal (d : Date) : String :=
  "datetime.date(" ++ ", ".intercalate ([d.year, d.month, d.day].map toString) ++ ")"

/-- A span of time as days, and seconds and microseconds that are not negative. -/
def Calendar.spanLiteral (microseconds : Int) : String :=
  let days := microseconds / (dayLength : Int)
  let rest := (microseconds % (dayLength : Int)).toNat
  let parts := (if days = 0 then [] else ["days=" ++ toString days])
    ++ (if rest / second = 0 then [] else ["seconds=" ++ toString (rest / second)])
    ++ (if rest % second = 0 then [] else ["microseconds=" ++ toString (rest % second)])
  "datetime.timedelta(" ++ ", ".intercalate parts ++ ")"

/-- The literal form of a timezone. -/
def Calendar.zoneLiteral (offset : Int) : String :=
  if offset = 0 then "datetime.timezone.utc"
  else "datetime.timezone(" ++ spanLiteral offset ++ ")"

/-- The numbers of a moment, without seconds and microseconds at the end that are zero, and its
    timezone. -/
def Moment.literal (m : Moment) : String :=
  let numbers := [m.date.year, m.date.month, m.date.day, m.hour, m.minute]
    ++ (if m.microsecond = 0 then (if m.seconds = 0 then [] else [m.seconds])
        else [m.seconds, m.microsecond])
  let zone := match m.offset with
    | none => ""
    | some offset => ", tzinfo=" ++ Calendar.zoneLiteral offset
  "datetime.datetime(" ++ ", ".intercalate (numbers.map toString) ++ zone ++ ")"

/-- Parts in brackets, with commas between them. -/
def listing (opening closing : String) (parts : List String) : String :=
  opening ++ ", ".intercalate parts ++ closing

namespace Value

mutual

/-- The form that shows what a value is made of. -/
def literal : Value → String
  | null => "None"
  | bool b => if b then "True" else "False"
  | int n => toString n
  | float x => x.text
  | text s => Text.quoted s
  | bytes bs => Text.quotedBytes bs
  | list items => listing "[" "]" (literals items)
  | tuple items =>
    match literals items with
    | [one] => "(" ++ one ++ ",)"
    | parts => listing "(" ")" parts
  | set members =>
    match literals members with
    | [] => "set()"
    | parts => listing "\x7b" "\x7d" parts
  | keys names => "dict_keys(" ++ listing "[" "]" (literals names) ++ ")"
  | range p => p.literal
  | dict entries => listing "\x7b" "\x7d" (entryLiterals entries)
  | date d => d.literal
  | moment m => m.literal
  | sentinel s => s.literal
  | field name => "Field(name=" ++ literal name ++ ")"
  | method name => "Method(name=" ++ literal name ++ ")"
  | pattern p => p.literal
  | computed _ formula => "<call " ++ formula.label ++ ">"
  | object _ name _ => "<obj " ++ name ++ ">"

/-- The literal form of each value. -/
def literals : List Value → List String
  | [] => []
  | v :: rest => literal v :: literals rest

/-- The literal form of each entry. -/
def entryLiterals : List (Value × Value) → List String
  | [] => []
  | (key, value) :: rest => (literal key ++ ": " ++ literal value) :: entryLiterals rest

end

/-- The text a name stands for as a reference; only a text has one. -/
def nameText : Value → Except Fault String
  | text s => .ok s
  | name => .error (.noTextForm name.kind)

/-- The form that messages use. A reference is shown by its name, which must be a text. -/
def display : Value → Except Fault String
  | text s => .ok s
  | date d => .ok d.text
  | moment m => .ok m.text
  | sentinel s => .ok s.text
  | field name | method name => nameText name
  | v => .ok v.literal

/-- The display forms with commas between them. -/
def displayAll (values : List Value) : Except Fault String := do
  return ", ".intercalate (← values.mapM display)

end Value

end RecordRules
