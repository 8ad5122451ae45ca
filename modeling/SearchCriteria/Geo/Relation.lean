import SearchCriteria.Fault
import SearchCriteria.Text.LetterCase

/-!
# Relations between shapes

How the shape of a document lies to the shape that is asked for.
-/

namespace SearchCriteria

inductive ShapeRelation where
  | intersects
  | disjoint
  | within
  | contains
deriving DecidableEq, Repr

namespace ShapeRelation

def label : ShapeRelation → String
  | .intersects => "intersects"
  | .disjoint => "disjoint"
  | .within => "within"
  | .contains => "contains"

instance : Named ShapeRelation where
  all := [.intersects, .disjoint, .within, .contains]
  name := label
  find?_name a := by cases a <;> rfl

/-- Reads the name of a relation in any letter case. -/
def read (text : String) : Except Fault ShapeRelation :=
  match Named.ofName? (Text.lower text) with
  | some relation => .ok relation
  | none => .error (.unsupportedOperator text .shapeRelation)

end ShapeRelation

end SearchCriteria
