import RecordRules.Named
import RecordRules.Value.Mapping

/-!
# Arguments by name

A procedure takes some arguments by their place and others by name. Names are texts, and an argument
that is given by its place may not be given by name as well.
-/

namespace RecordRules

/-- Entries as arguments by name. -/
def Entries.asArguments (entries : Entries) : Except Fault (Named Value) :=
  entries.mapM fun
    | (.text name, v) => .ok (name, v)
    | _ => .error .argumentName

namespace Arguments

/-- Arguments by name of a procedure that is given others by their place. -/
def besides (procedure : String) (placed : List String) (arguments : Named Value) :
    Except Fault (Named Value) :=
  match arguments.find? fun (name, _) => placed.contains name with
  | some (name, _) => .error (.repeatedArgument procedure name)
  | none => .ok arguments

/-- Arguments by name of a procedure that knows only some names and is given others by their
    place. -/
def among (procedure : String) (placed known : List String) :
    Named Value → Except Fault Unit
  | [] => .ok ()
  | (name, _) :: rest =>
    if placed.contains name then .error (.repeatedArgument procedure name)
    else if known.contains name then among procedure placed known rest
    else .error (.unknownArgument procedure name)

end Arguments

end RecordRules
