import RecordRules.Value.Arguments
import RecordRules.Value.Collection
import RecordRules.Value.Mapping
import RecordRules.Value.Text

/-!
# Checking data for a model

A model is made from a mapping of its fields. Every field is checked, and all problems are
reported, in the order of the fields, each with the way to the part that is refused. Where the
meaning is plain a value is converted: bytes to text, any collection to a list, words and the
numbers 0 and 1 to truth values.
-/

namespace RecordRules

/-- The result of checking data: what it stands for, or what is wrong with it. -/
abbrev Checked (α : Type) := Except (List Problem) α

namespace Checked

/-- A single problem with the whole of a value. -/
def refuse {α : Type} (v : Value) (kind text : String) : Checked α :=
  .error [⟨[], kind, text, v.literal, v.plainKind⟩]

/-- A check of a part of the data. -/
def within {α : Type} (step : Step) (c : Checked α) : Checked α :=
  c.mapError fun problems => problems.map (Problem.within step)

/-- Two checks, with the problems of both. -/
def both {α β : Type} (a : Checked α) (b : Checked β) : Checked (α × β) :=
  match a, b with
  | .ok x, .ok y => .ok (x, y)
  | .ok _, .error q => .error q
  | .error p, .ok _ => .error p
  | .error p, .error q => .error (p ++ q)

/-- The check of each of several values, with the problems of all. -/
def each {α β : Type} (check : α → Checked β) : List α → Checked (List β)
  | [] => .ok []
  | v :: rest => (both (check v) (each check rest)).map fun (x, xs) => x :: xs

/-- A check as a step of an evaluation, for the model of a name. -/
def orFault {α : Type} (model : String) (c : Checked α) : Except Fault α :=
  c.mapError (.model model)

/-- The model of a name from fields that are given as arguments by name. -/
def ofArguments {α : Type} (model : String) (check : Entries → Checked α) (fields : Entries) :
    Except Fault α := do
  let _ ← fields.asArguments
  orFault model (check fields)

end Checked

open Checked

namespace Value

/-- The text that bytes encode. -/
def decoded? (bytes : List UInt8) : Option String := String.fromUTF8? ⟨bytes.toArray⟩

/-- A text. -/
def asText (v : Value) : Checked String :=
  match v with
  | text s => .ok s
  | bytes bs =>
    match decoded? bs with
    | some s => .ok s
    | none =>
      refuse v "string_unicode"
        "Input should be a valid string, unable to parse raw data as a unicode string"
  | sentinel s => .ok s.text
  | _ => refuse v "string_type" "Input should be a valid string"

/-- A text that is not empty. -/
def asNonemptyText (v : Value) : Checked String := do
  let s ← v.asText
  if s = "" then refuse v "string_too_short" "String should have at least 1 character" else pure s

/-- A text or nothing. -/
def asTextOrNull : Value → Checked (Option String)
  | null => .ok none
  | v => v.asText.map some

/-- Whether a whole number fits into a signed word of 64 bits. -/
def isWord (n : Int) : Bool := -Int.pow 2 63 ≤ n && n < Int.pow 2 63

/-- The way to an entry of a mapping; numbers beyond a word of 64 bits are named. -/
def entryStep (v : Value) : Step :=
  match v with
  | text s => .name s
  | int n => if isWord n then .index n else .name v.literal
  | bool b => .index (if b then 1 else 0)
  | v => .name v.literal

/-- A mapping from texts, with a check for what they map to. -/
def asNamed {α : Type} (check : Value → Checked α) (v : Value) : Checked (Named α) :=
  match v with
  | dict entries => do
    let pairs ← each (fun (key, value) =>
      within (entryStep key) (both (within (.name "[key]") key.asText) (check value))) entries
    pure (Named.ofList pairs)
  | _ => refuse v "dict_type" "Input should be a valid dictionary"

/-- A collection as a list, with a check for its members. -/
def asListOf {α : Type} (check : Value → Checked α) (v : Value) : Checked (List α) :=
  match v.elements? with
  | some items =>
    each (fun (item, index) => within (.index (index : Nat)) (check item)) items.zipIdx
  | none => refuse v "list_type" "Input should be a valid list"

/-- The words for true and false. -/
def truthWord? (s : String) : Option Bool :=
  if ["1", "on", "t", "true", "y", "yes"].contains s.toLower then some true
  else if ["0", "off", "f", "false", "n", "no"].contains s.toLower then some false
  else none

/-- A truth value, one of the words for it, or 0 or 1. A number that is no word of 64 bits is not
    taken for a truth value at all, nor is a float at the lower end of them. -/
def asBool (v : Value) : Checked Bool :=
  let ofOption : Option Bool → Checked Bool
    | some b => .ok b
    | none =>
      refuse v "bool_parsing" "Input should be a valid boolean, unable to interpret input"
  let ofInt (n : Int) : Checked Bool :=
    ofOption (if n = 0 then some false else if n = 1 then some true else none)
  let other : Checked Bool := refuse v "bool_type" "Input should be a valid boolean"
  match v with
  | bool b => .ok b
  | text s => ofOption (truthWord? s)
  | bytes bs => ofOption ((decoded? bs).bind truthWord?)
  | int n => if isWord n then ofInt n else other
  | float (.finite negative units) =>
    let whole := Double.signedUnits negative (units / Double.one)
    if units % Double.one = 0 && isWord whole && whole != -Int.pow 2 63 then ofInt whole else other
  | _ => other

/-- The fields that a model is made from. -/
def asFields (model : String) (v : Value) : Checked Entries :=
  match v with
  | dict entries => .ok entries
  | _ =>
    refuse v "model_type" ("Input should be a valid dictionary or instance of " ++ model)

end Value

namespace Entries

/-- A field that must be given. -/
def required {α : Type} (entries : Entries) (name : String) (check : Value → Checked α) :
    Checked α :=
  within (.name name)
    (match entries.get? (.text name) with
    | some v => check v
    | none => refuse (.dict entries) "missing" "Field required")

/-- A field with a value for when it is not given. -/
def optional {α : Type} (entries : Entries) (name : String) (default : α)
    (check : Value → Checked α) : Checked α :=
  match entries.get? (.text name) with
  | some v => within (.name name) (check v)
  | none => .ok default

end Entries

end RecordRules
