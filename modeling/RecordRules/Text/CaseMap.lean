/-!
# Mapping characters by case

A case mapping is a list of runs: code points from a first to a last one, in steps, that are all
shifted by one amount.
-/

namespace RecordRules.Text

/-- The code points from `first` to `last` in steps of `step`, all moved by `shift`. -/
structure CaseRun where
  first : Nat
  last : Nat
  step : Nat
  shift : Int

namespace CaseRun

/-- Whether a run moves a code point. -/
def covers (run : CaseRun) (point : Nat) : Bool :=
  decide (run.first ≤ point) && decide (point ≤ run.last) && (point - run.first) % run.step == 0

end CaseRun

/-- The character a mapping sends a character to; one outside its runs stays. -/
def mapCase (runs : List CaseRun) (c : Char) : Char :=
  match runs.find? (·.covers c.toNat) with
  | some run => Char.ofNat (c.toNat + run.shift).toNat
  | none => c

end RecordRules.Text
