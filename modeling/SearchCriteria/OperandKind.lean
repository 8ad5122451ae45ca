import SearchCriteria.Named

/-!
# Kinds of operands

What an operator looks at before it looks into an operand.
-/

namespace SearchCriteria

inductive OperandKind where
  | null
  /-- A text, number, truth value, instant or date. -/
  | scalar
  | sequence
  | geoPoint
  | planePoint
  | distance
  | geoBox
  | geometry
  | hasChild
  | hasParent
deriving DecidableEq, Repr

namespace OperandKind

def label : OperandKind → String
  | .null => "null"
  | .scalar => "scalar"
  | .sequence => "sequence"
  | .geoPoint => "geo point"
  | .planePoint => "point"
  | .distance => "distance"
  | .geoBox => "bounding box"
  | .geometry => "geometry"
  | .hasChild => "has-child specification"
  | .hasParent => "has-parent specification"

instance : Named OperandKind where
  all := [.null, .scalar, .sequence, .geoPoint, .planePoint, .distance, .geoBox, .geometry,
    .hasChild, .hasParent]
  name := label
  find?_name a := by cases a <;> rfl

end OperandKind

end SearchCriteria
