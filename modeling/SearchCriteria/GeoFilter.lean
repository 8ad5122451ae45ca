import SearchCriteria.Criteria.Operand
import SearchCriteria.Geo.Geohash
import SearchCriteria.Geo.PointText

/-!
# Filters on places and shapes

The predicate of one filtering entry. A point can be given as such, on a plane, as a latitude and a
longitude in a text, or as a geohash. The corners of a box cannot be geohashes for the search
engine, so a geohash there is decoded.
-/

namespace SearchCriteria.GeoFilter

/-- A point that is given as such, on a plane or as a latitude and a longitude in a text. -/
def plainLocation? : Operand → Option Location
  | .geoPoint value => some (.latLon value)
  | .planePoint value => some (.latLon value.toGeoPoint)
  | .text value => if PointText.isLatLon value then some (.text value) else none
  | _ => none

/-- The text of an operand that has the form of a geohash. -/
def geohash? : Operand → Option String
  | .text value => if Geohash.isGeohash value then some value else none
  | _ => none

def centre (field : String) (operand : Operand) : Except Fault Location :=
  match plainLocation? operand, geohash? operand with
  | some location, _ => .ok location
  | none, some hash => .ok (.geohash hash)
  | none, none =>
    .error (.invalidArgument field Operator.within.label (.notPoint operand.kind))

def radius (field : String) (operand : Operand) : Except Fault String :=
  let refused := .error (.invalidArgument field Operator.within.label (.notDistance operand.kind))
  match operand with
  | .distance value => value.text
  | .text value => if Text.isBlankText value then refused else .ok value
  | _ => refused

/-- Places within a distance of a point, on the plane. -/
def distance (field : String) (point length : Operand) : Except Fault GeoPredicate := do
  let centre ← centre field point
  let radius ← radius field length
  return .distance field centre radius .plane

def corner (field : String) (operand : Operand) : Except Fault Location :=
  match plainLocation? operand, geohash? operand with
  | some location, _ => .ok location
  | none, some hash =>
    match Geohash.decode? hash with
    | some point => .ok (.text point.text)
    | none => .error (.invalidArgument field Operator.boundingBox.label (.badGeohash hash))
  | none, none =>
    .error (.invalidArgument field Operator.boundingBox.label (.notCorner operand.kind))

/-- Places in a box, which is given as such or by its north-west and its south-east corner. -/
def boundingBox (field : String) : List Operand → Except Fault GeoPredicate
  | [.geoBox value] =>
    .ok (.boundingBox field (.latLon value.topLeft) (.latLon value.bottomRight))
  | [first, second] => do
    let topLeft ← corner field first
    let bottomRight ← corner field second
    return .boundingBox field topLeft bottomRight
  | operands =>
    .error (.invalidArgument field Operator.boundingBox.label (.notCorners operands.length))

/-- Shapes that lie to a geometry as a relation says. -/
def shape (field : String) (operand : Operand) (relation : ShapeRelation) :
    Except Fault GeoPredicate :=
  match operand with
  | .geometry value => .ok (.shape field value.fields relation)
  | _ => .error (.invalidArgument field relation.label (.notGeometry operand.kind))

/-- The relation that an operator asks for. -/
def relation : Operator → Except Fault ShapeRelation
  | .shapeIntersects => .ok .intersects
  | .shapeDisjoint => .ok .disjoint
  | .shapeWithin => .ok .within
  | .shapeContains => .ok .contains
  | op => .error (.unsupportedOperator op.label .shapeRelation)

/-- Builds the predicate of an entry. -/
def build (field : String) (entry : Entry) : Except Fault GeoPredicate := do
  entry.operator.check field entry.operand.kind entry.operand.count
  match entry.operator with
  | .within =>
    match entry.operand with
    | .sequence [point, length] => distance field point length
    | _ => .error (.invalidArgument field Operator.within.label .notPointAndDistance)
  | .boundingBox =>
    match entry.operand with
    | .sequence items => boundingBox field items
    | operand => boundingBox field [operand]
  | .shapeIntersects | .shapeDisjoint | .shapeWithin | .shapeContains =>
    shape field entry.operand (← relation entry.operator)
  | op => .error (.unsupportedOperator op.label .filter)

end SearchCriteria.GeoFilter
