import RecordRules.Calendar.Moment
import RecordRules.Number.Double
import RecordRules.Pattern.Basic

/-!
# Values

What records hold, what rules are declared with and what rule files denote: plain data, dates,
and the kinds of operand that stand for something else. A declaration may put any value in any
place, so there is one type of them.
-/

namespace RecordRules

/-- The four words with a meaning of their own: two points of time and two conditions. -/
inductive Sentinel where
  | now
  | today
  | blank
  | present
  deriving DecidableEq

/-- An arithmetic progression of whole numbers up to a bound it does not reach. -/
structure Progression where
  start : Int
  stop : Int
  step : Int
  deriving DecidableEq

namespace Progression

/-- The number of members. -/
def length (p : Progression) : Nat :=
  if p.step < 0 then ((p.start - p.stop + (-p.step) - 1) / (-p.step)).toNat
  else ((p.stop - p.start + p.step - 1) / p.step).toNat

/-- The members in order. -/
def members (p : Progression) : List Int :=
  (List.range p.length).map fun (i : Nat) => p.start + (i : Int) * p.step

/-- The same members in the same order. -/
def agrees (p q : Progression) : Bool :=
  p.length == q.length && (p.length == 0 || (p.start == q.start &&
    (p.length == 1 || p.step == q.step)))

end Progression

/-- The families of fault that a computed operand raises. -/
inductive RaisedFamily where
  | value
  | type
  deriving DecidableEq

/-- What an operand computes from the record: a constant, an attribute, the attribute as received,
    whether there is such an attribute, an attribute plus or times a number, or a fault. Whatever
    computes an operand is taken to depend on the attributes of the record and on nothing else, to
    change nothing, and to raise no faults but those of a value or a type. -/
inductive Formula (α : Type) where
  | constant (value : α)
  | current (name : α)
  | received (name : α)
  | known (name : α)
  | sum (name : α) (addend : Int)
  | product (name : α) (factor : Int)
  | failure (family : RaisedFamily) (text : String)

/-- A value. Computed operands and objects have an identity: nothing but itself is equal to one. -/
inductive Value where
  | null
  | bool (b : Bool)
  | int (n : Int)
  | float (x : Double)
  | text (s : String)
  | bytes (bytes : List UInt8)
  | list (items : List Value)
  | tuple (items : List Value)
  /-- A set, without two members that are the same. -/
  | set (members : List Value)
  /-- The names of a mapping, a collection and a set. -/
  | keys (names : List Value)
  | range (members : Progression)
  /-- A mapping in the order of its entries, without two keys that are the same. -/
  | dict (entries : List (Value × Value))
  | date (day : Date)
  | moment (m : Moment)
  | sentinel (s : Sentinel)
  /-- A reference to another attribute of the record. -/
  | field (name : Value)
  /-- The name of a question to ask of a value. -/
  | method (name : Value)
  | pattern (p : Pattern)
  | computed (identity : Nat) (formula : Formula Value)
  /-- An object with answers to questions. -/
  | object (identity : Nat) (name : String) (answers : List (String × Value))

instance : Inhabited Value := ⟨.null⟩

namespace Value

/-- The name of the kind of a value, as faults report it. -/
def kind : Value → String
  | null => "NoneType"
  | bool _ => "bool"
  | int _ => "int"
  | float _ => "float"
  | text _ => "str"
  | bytes _ => "bytes"
  | list _ => "list"
  | tuple _ => "tuple"
  | set _ => "set"
  | keys _ => "dict_keys"
  | range _ => "range"
  | dict _ => "dict"
  | date _ => "datetime.date"
  | moment _ => "datetime.datetime"
  | sentinel _ => "Sentinel"
  | field _ => "Field"
  | method _ => "Method"
  | pattern _ => "re.Pattern"
  | computed _ _ => "Call"
  | object _ _ _ => "Obj"

/-- The name of the kind of a value without the module it belongs to. -/
def plainKind (v : Value) : String :=
  String.ofList (v.kind.toList.reverse.takeWhile (· != '.')).reverse

/-- Whether a value counts as true: all do but nothing, false, zero and what is empty. -/
def truthy : Value → Bool
  | null => false
  | bool b => b
  | int n => n != 0
  | float (.finite _ units) => units != 0
  | text s => s != ""
  | bytes bs => !bs.isEmpty
  | list items | tuple items | set items | keys items => !items.isEmpty
  | range p => p.length != 0
  | dict entries => !entries.isEmpty
  | _ => true

/-- Whether a value is a date, alone or with a time of day. -/
def isDate : Value → Bool
  | date _ | moment _ => true
  | _ => false

/-- The value itself, unless it counts as false. -/
def orElse (v other : Value) : Value := if v.truthy then v else other

end Value

end RecordRules
