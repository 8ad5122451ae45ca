import SearchCriteria.Fault
import SearchCriteria.Number.Layout
import SearchCriteria.Text.LetterCase

/-!
# Distances

A distance is written as its value with the code of its unit behind it. A distance without a unit
cannot be written.
-/

namespace SearchCriteria

inductive DistanceUnit where
  | kilometers
  | miles
  | neutral
deriving DecidableEq, Repr

structure Distance where
  value : Double
  unit : DistanceUnit
deriving DecidableEq, Repr

namespace DistanceUnit

def label : DistanceUnit → String
  | .kilometers => "kilometers"
  | .miles => "miles"
  | .neutral => "neutral"

instance : Named DistanceUnit where
  all := [.kilometers, .miles, .neutral]
  name := label
  find?_name a := by cases a <;> rfl

def code : DistanceUnit → Except Fault String
  | .kilometers => .ok "km"
  | .miles => .ok "mi"
  | .neutral => .error (.unsupportedOperator "neutral" .distanceUnit)

/-- The unit that has a name or a code. -/
def ofText? (text : String) : Option DistanceUnit :=
  if text = "km" then some .kilometers
  else if text = "mi" then some .miles
  else Named.ofName? text

/-- Reads the name or the code of a unit in any letter case. -/
def read (text : String) : Except Fault DistanceUnit :=
  match ofText? (Text.lower text) with
  | some unit => .ok unit
  | none => .error (.unsupportedOperator text .distanceUnit)

end DistanceUnit

def Distance.text (d : Distance) : Except Fault String := do
  return d.value.plainText ++ (← d.unit.code)

end SearchCriteria
