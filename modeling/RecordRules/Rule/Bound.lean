import RecordRules.Calendar.Reading
import RecordRules.Rule.Operand
import RecordRules.Value.Mention
import RecordRules.Value.Order

/-!
# Date bounds

A bound is a date or a moment, one of the words for the present time, a reference to an attribute
or a formula. A value is held against it on one side, inclusively, as whole days or with the time
of day; a bound that stands for nothing accepts everything.
-/

namespace RecordRules

/-- The side on which a bound limits a value: the value is to come before or after it. -/
inductive Direction where
  | before
  | after
  deriving DecidableEq

namespace Direction

/-- The word for a side, which is also the name of the option. -/
def text : Direction → String
  | before => "before"
  | after => "after"

/-- The side that a value names. -/
def ofValue? (v : Value) : Option Direction :=
  if Value.same v (.text "before") then some before
  else if Value.same v (.text "after") then some after
  else none

/-- The side that a value names, which must be one of the two. -/
def ofValue (v : Value) : Except Fault Direction := do
  let name ← v.asKey
  match ofValue? name with
  | some d => pure d
  | none => throw (.direction (← name.display))

/-- Whether a value may stand to the bound in an order. -/
def admits : Direction → Ordering → Bool
  | before, o => o != .gt
  | after, o => o != .lt

/-- What a bound on the present time says when it fails. -/
def presentClause : Direction → String
  | before => "Date cannot be in the future"
  | after => "Date cannot be in the past"

/-- What a bound on a given date says when it fails. -/
def givenClause : Direction → String
  | before => "Date cannot be after"
  | after => "Date cannot be before"

end Direction

namespace Value

/-- The date that a text in ISO form denotes: with a time of day if it holds a `T` or a colon. -/
def readDate (s : String) : Except Fault Value :=
  let read := if s.toList.contains 'T' || s.toList.contains ':' then
      (Moment.read? s).map moment
    else (Date.read? s).map date
  match read with
  | some v => .ok v
  | none => .error (.boundText s)

/-- The date that a value denotes, which must be a text. -/
def asIsoDate : Value → Except Fault Value
  | text s => readDate s
  | v => do
    let _ ← v.mentions "T"
    throw .dateArgument

/-- The day of a date or moment. -/
def day? : Value → Option Date
  | date d => some d
  | moment m => some m.date
  | _ => none

end Value

namespace Bound

/-- Seconds by which clocks may differ. -/
def grace : Int := 60

/-- The present time in the timezone of the value held against it, widened on the side checked. -/
def present (clock : Moment) (value : Value) (d : Direction) : Except Fault Value :=
  let shift := match d with
    | .before => grace
    | .after => -grace
  let here := match value with
    | .moment v => clock.movedToZoneOf? v
    | _ => some clock
  match here.bind (·.plusSeconds? shift) with
  | some m => .ok (.moment m)
  | none => .error .dateOverflow

/-- What a reference or a formula came to, as a date. -/
def ofResolved (bound resolved : Value) : Except Fault Value :=
  if resolved.isDate || resolved.isBlank then .ok resolved
  else
    match resolved with
    | .text s => Value.readDate (Text.strip s)
    | v => .error (.boundResolved bound.literal v.literal)

/-- The date that a bound stands for; a blank value if it refers to what is not there. -/
def resolve (subject : Subject) (clock : Moment) (bound value : Value) (d : Direction) :
    Except Fault Value :=
  match bound with
  | .sentinel .today => .ok (.date clock.date)
  | .sentinel .now => present clock value d
  | .date _ | .moment _ => .ok bound
  | .field name => do
    if ← subject.has name then ofResolved bound (← subject.read name) else pure .null
  | .computed _ formula => do ofResolved bound (← subject.evaluate formula)
  | v => .error (.bound v.literal)

/-- Whether two moments stand as a side demands; one without a timezone is read in the other's. -/
def momentsAdmitted (d : Direction) (value bound : Moment) : Bool :=
  let value := if value.offset.isNone then value.readInZoneOf bound else value
  let bound := if bound.offset.isNone then bound.readInZoneOf value else bound
  (value.comparable? bound).any fun (x, y) => d.admits (compare x y)

/-- Whether a date lies on a side of a bound that is a date: as days, unless the time of day is
    asked for and the bound has one. A date alone then stands for its midnight. -/
def admits (withTime : Bool) (d : Direction) (value bound : Value) : Bool :=
  match withTime, bound, value with
  | true, .moment b, .moment v => momentsAdmitted d v b
  | true, .moment b, .date v => momentsAdmitted d (Moment.midnight v b) b
  | _, bound, value =>
    match value.day?, bound.day? with
    | some v, some b => d.admits (compareDate v b)
    | _, _ => false

/-- What a bound says when it fails. -/
def describe (subject : Subject) (bound : Value) (d : Direction) : Except Fault String :=
  match bound with
  | .sentinel .now | .sentinel .today => .ok (" " ++ d.presentClause)
  | .field name => do return " " ++ d.givenClause ++ " " ++ (← name.display)
  | .computed _ formula => do
    let computed ← subject.evaluate formula
    return " " ++ d.givenClause ++ " " ++ (← computed.display)
  | v => do return " " ++ d.givenClause ++ " " ++ (← v.display)

/-- The display form of a value as received; nothing is shown for no value. -/
def shown : Value → Except Fault String
  | .null => .ok ""
  | v => v.display

/-- Holds a value against one side of a bound: nothing if it satisfies it, else the failure without
    the period at its end. -/
def evaluate (subject : Subject) (clock : Moment) (value asReceived bound : Value) (d : Direction)
    (withTime : Bool) : Except Fault (Option String) := do
  let resolved ← resolve subject clock bound value d
  if resolved.isBlank || admits withTime d value resolved then return none
  let received ← shown asReceived
  let clause ← describe subject bound d
  return some (": " ++ received ++ " is not a valid value." ++ clause)

end Bound

end RecordRules
