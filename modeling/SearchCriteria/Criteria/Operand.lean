import SearchCriteria.Criteria.Basic

/-!
# Operands

What can be said of an operand without knowing its operator: of what kind it is, how many values it
has, and what a scalar is as a text and as a JSON value.
-/

namespace SearchCriteria.Operand

def kind : Operand → OperandKind
  | .null => .null
  | .bool _ | .integer _ | .float _ | .text _ | .instant _ | .date _ => .scalar
  | .sequence _ => .sequence
  | .geoPoint _ => .geoPoint
  | .planePoint _ => .planePoint
  | .distance _ => .distance
  | .geoBox _ => .geoBox
  | .geometry _ => .geometry
  | .hasChild .. => .hasChild
  | .hasParent .. => .hasParent

/-- How many values an operator finds in an operand. -/
def count : Operand → Nat
  | .null => 0
  | .sequence items => items.length
  | _ => 1

def items? : Operand → Option (List Operand)
  | .sequence items => some items
  | _ => none

/-- The text of a scalar. -/
def text? : Operand → Option String
  | .bool value => some (if value then "true" else "false")
  | .integer value => some (String.ofList (Decimal.intText value))
  | .float value => some value.plainText
  | .text value => some value
  | .instant value => some value.text
  | .date value => some value.text
  | _ => none

/-- A scalar as a JSON value, in which numbers stay numbers. A float that is not finite has none. -/
def scalarJson? : Operand → Option Json
  | .bool value => some (.bool value)
  | .integer value => some (.integer value)
  | .float value => if value.isFinite then some (.number value) else none
  | .text value => some (.string value)
  | .instant value => some (.string value.text)
  | .date value => some (.string value.text)
  | _ => none

end SearchCriteria.Operand
