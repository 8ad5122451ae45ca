import SearchCriteria.Json.Basic
import SearchCriteria.Named

/-!
# Geometries

The shapes of GeoJSON. Their JSON form has two fields, the name of the type and the coordinates or,
for a collection, the member geometries.
-/

namespace SearchCriteria

/-- A position is a longitude and a latitude, in this order. -/
structure Position where
  lon : Double
  lat : Double
deriving DecidableEq, Repr

/-- The types of geometries. -/
inductive GeometryType where
  | point
  | multiPoint
  | lineString
  | multiLineString
  | polygon
  | multiPolygon
  | collection
deriving DecidableEq, Repr

inductive Geometry where
  | point (position : Position)
  | multiPoint (positions : List Position)
  | lineString (positions : List Position)
  | multiLineString (lines : List (List Position))
  /-- The outer ring and then the holes. -/
  | polygon (rings : List (List Position))
  | multiPolygon (polygons : List (List (List Position)))
  | collection (members : List Geometry)

namespace GeometryType

def label : GeometryType → String
  | .point => "Point"
  | .multiPoint => "MultiPoint"
  | .lineString => "LineString"
  | .multiLineString => "MultiLineString"
  | .polygon => "Polygon"
  | .multiPolygon => "MultiPolygon"
  | .collection => "GeometryCollection"

instance : Named GeometryType where
  all := [.point, .multiPoint, .lineString, .multiLineString, .polygon, .multiPolygon, .collection]
  name := label
  find?_name a := by cases a <;> rfl

end GeometryType

def Position.toJson (p : Position) : Json :=
  .array [.ofDouble p.lon, .ofDouble p.lat]

namespace Geometry

def type : Geometry → GeometryType
  | .point _ => .point
  | .multiPoint _ => .multiPoint
  | .lineString _ => .lineString
  | .multiLineString _ => .multiLineString
  | .polygon _ => .polygon
  | .multiPolygon _ => .multiPolygon
  | .collection _ => .collection

def lineJson (positions : List Position) : Json :=
  .array (positions.map Position.toJson)

def linesJson (lines : List (List Position)) : Json :=
  .array (lines.map lineJson)

mutual

/-- The field of the JSON form that holds the shape itself. -/
def content : Geometry → String × Json
  | .point position => ("coordinates", position.toJson)
  | .multiPoint positions => ("coordinates", lineJson positions)
  | .lineString positions => ("coordinates", lineJson positions)
  | .multiLineString lines => ("coordinates", linesJson lines)
  | .polygon rings => ("coordinates", linesJson rings)
  | .multiPolygon polygons => ("coordinates", .array (polygons.map linesJson))
  | .collection members => ("geometries", .array (memberJson members))

def memberJson : List Geometry → List Json
  | [] => []
  | member :: rest =>
    .object [content member, ("type", .string member.type.label)] :: memberJson rest

end

/-- The fields of the JSON form. -/
def fields (g : Geometry) : List (String × Json) :=
  [g.content, ("type", .string g.type.label)]

def toJson (g : Geometry) : Json :=
  .object g.fields

end Geometry

end SearchCriteria
