import RecordRules.Fault
import RecordRules.Value.Equality

/-!
# Mappings

Entries in the order in which their keys were first set, and the values that may be keys: those
whose contents cannot change. Looking something up by another value is a fault.
-/

namespace RecordRules

/-- The entries of a mapping. -/
abbrev Entries := List (Value × Value)

namespace Entries

/-- The value of the entry whose key is the same as a value. -/
def get? (entries : Entries) (key : Value) : Option Value :=
  (entries.find? fun (k, _) => Value.same k key).map (·.2)

/-- Whether there is an entry for a key. -/
def has (entries : Entries) (key : Value) : Bool := (entries.get? key).isSome

/-- The entry for a key set to a value: in its place, or at the end if there was none. -/
def put (entries : Entries) (key value : Value) : Entries :=
  match entries with
  | [] => [(key, value)]
  | (k, v) :: rest =>
    if Value.same k key then (k, value) :: rest else (k, v) :: put rest key value

/-- The entries with one for a key that has none yet. -/
def putDefault (entries : Entries) (key value : Value) : Entries :=
  if entries.has key then entries else entries.put key value

/-- The value of an option, or nothing. -/
def option (entries : Entries) (name : String) : Value :=
  (entries.get? (.text name)).getD .null

/-- Entries set one after another. -/
def ofList (pairs : List (Value × Value)) : Entries :=
  pairs.foldl (fun entries (k, v) => entries.put k v) []

end Entries

namespace Value

mutual

/-- The kind of the first part of a value for which it cannot be a key. -/
def changeable? : Value → Option String
  | list _ => some "list"
  | dict _ => some "dict"
  | set _ => some "set"
  | keys _ => some "dict_keys"
  | tuple items => firstChangeable? items
  | field name => changeable? name
  | method name => changeable? name
  | _ => none

/-- The first such kind in several values. -/
def firstChangeable? : List Value → Option String
  | [] => none
  | v :: rest =>
    match changeable? v with
    | some kind => some kind
    | none => firstChangeable? rest

end

/-- A value as a key; a fault if it cannot be one. -/
def asKey (v : Value) : Except Fault Value :=
  match v.changeable? with
  | some kind => .error (.unhashable kind)
  | none => .ok v

/-- What looking up a key gives. -/
def lookup (entries : Entries) (key : Value) : Except Fault (Option Value) := do
  return entries.get? (← key.asKey)

/-- Values without those that are the same as an earlier one. -/
def distinct (values : List Value) : List Value :=
  values.foldl (fun kept v => if v.memberOf kept then kept else kept ++ [v]) []

/-- What a loop over a value runs through: the members of a collection, the keys of a mapping, the
    characters of a text, or the numbers of bytes. -/
def iterate : Value → Except Fault (List Value)
  | list items | tuple items | set items | keys items => .ok items
  | range p => .ok (p.members.map int)
  | dict entries => .ok (entries.map (·.1))
  | text s => .ok (s.toList.map fun c => text c.toString)
  | bytes bs => .ok (bs.map fun b => int b.toNat)
  | v => .error (.notIterable v.kind)

/-- The entries that the elements of a value give, from a position on: each is to be a pair. -/
def entriesFrom (sofar : Entries) (index : Nat) : List Value → Except Fault Entries
  | [] => .ok sofar
  | v :: rest =>
    match v.iterate with
    | .error _ => .error (.entryKind index)
    | .ok [key, value] => do
      let key ← key.asKey
      entriesFrom (sofar.put key value) (index + 1) rest
    | .ok parts => .error (.entryLength index parts.length)

/-- A mapping as entries, or the entries that a value made of pairs gives. -/
def asEntries : Value → Except Fault Entries
  | dict entries => .ok entries
  | v => do entriesFrom [] 0 (← v.iterate)

end Value

end RecordRules
