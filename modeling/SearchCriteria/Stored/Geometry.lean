import SearchCriteria.Geo.Geometry
import SearchCriteria.Json.Record

/-!
# Reading geometries

The type of a geometry is a field that may stand anywhere in the object; the other field that counts
holds the coordinates or the member geometries, and each of the two has to be there exactly once. A
geometry may also be an array of its type and its content. For the members of a collection the type
may be given by its place in the list of types.
-/

namespace SearchCriteria

open Json (Source)

namespace GeometryType

/-- Reads the type of a geometry, of a member also by its place in the list of types. -/
def ofSource? (member : Bool) : Source → Option GeometryType
  | .string name => Named.ofName? name
  | .integer place =>
    if member && 0 ≤ place then (Named.all : List GeometryType)[place.toNat]? else none
  | _ => none

end GeometryType

def Position.ofSource? : Source → Option Position
  | .array [lon, lat] => do return { lon := ← lon.toDouble?, lat := ← lat.toDouble? }
  | _ => none

namespace Geometry

def lineOfSource? : Source → Option (List Position) :=
  Source.toList? Position.ofSource?

def linesOfSource? : Source → Option (List (List Position)) :=
  Source.toList? lineOfSource?

/-- Reads a geometry of a type other than a collection from its coordinates. -/
def ofCoordinates? (type : GeometryType) (coordinates : Source) : Option Geometry :=
  match type with
  | .point => (Position.ofSource? coordinates).map .point
  | .multiPoint => (lineOfSource? coordinates).map .multiPoint
  | .lineString => (lineOfSource? coordinates).map .lineString
  | .multiLineString => (linesOfSource? coordinates).map .multiLineString
  | .polygon => (linesOfSource? coordinates).map .polygon
  | .multiPolygon => (Source.toList? linesOfSource? coordinates).map .multiPolygon
  | .collection => none

/-- What a list of fields holds under a name that it has exactly once. -/
def theField? (name : String) (fields : List (String × Source)) : Option Source :=
  match fields.filter fun field => field.1 == name with
  | [field] => some field.2
  | _ => none

mutual

/-- Reads a geometry. -/
def ofSource? (member : Bool) : Source → Option Geometry
  | .object fields => do
    match ← GeometryType.ofSource? member (← theField? "type" fields) with
    | .collection =>
      match memberFields fields with
      | [members] => members.map .collection
      | _ => none
    | type => ofCoordinates? type (← theField? "coordinates" fields)
  | .array [type, content] => do
    match ← GeometryType.ofSource? member type with
    | .collection => (members? content).map .collection
    | type => ofCoordinates? type content
  | _ => none

/-- The members that stand in each of the fields for members. -/
def memberFields : List (String × Source) → List (Option (List Geometry))
  | [] => []
  | (name, value) :: rest =>
    if name = "geometries" then members? value :: memberFields rest else memberFields rest

def members? : Source → Option (List Geometry)
  | .array items => memberList? items
  | _ => none

def memberList? : List Source → Option (List Geometry)
  | [] => some []
  | item :: rest => do return (← ofSource? true item) :: (← memberList? rest)

end

/-- How deep the arrays and objects of a text may be nested for a geometry to be read. -/
def depthLimit : Nat := 127

/-- Reads a geometry as it stands in a text, of which every part has to be readable. -/
def read? (source : Source) : Option Geometry :=
  if source.depth ≤ depthLimit ∧ source.toJson?.isSome then ofSource? false source else none

end Geometry

end SearchCriteria
