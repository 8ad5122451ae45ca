import SearchCriteria.Geo.Point
import SearchCriteria.Geo.Relation

/-!
# Predicates on places and shapes

They only filter and never carry a boost.
-/

namespace SearchCriteria

/-- A point as it is given to the search engine. -/
inductive Location where
  | latLon (point : GeoPoint)
  /-- A latitude and a longitude with a comma between them. -/
  | text (written : String)
  | geohash (letters : String)
deriving DecidableEq, Repr

/-- How distances are computed: on a plane, or along the surface of the earth. -/
inductive DistanceMethod where
  | plane
  | arc
deriving DecidableEq, Repr

inductive GeoPredicate where
  | distance (field : String) (centre : Location) (radius : String) (method : DistanceMethod)
  | boundingBox (field : String) (topLeft bottomRight : Location)
  /-- The outline is the fields of a GeoJSON object. -/
  | shape (field : String) (outline : List (String × Json)) (relation : ShapeRelation)

namespace DistanceMethod

def label : DistanceMethod → String
  | .plane => "plane"
  | .arc => "arc"

instance : Named DistanceMethod where
  all := [.plane, .arc]
  name := label
  find?_name a := by cases a <;> rfl

end DistanceMethod

def Location.toJson : Location → Json
  | .latLon point => point.toJson
  | .text written => .string written
  | .geohash letters => .string letters

namespace GeoPredicate

def kind : GeoPredicate → String
  | .distance .. => "geo_distance"
  | .boundingBox .. => "geo_bounding_box"
  | .shape .. => "geo_shape"

/-- What stands under the kind of a predicate. Where the name of the field is the name of something
else as well, the field goes before it. -/
def body : GeoPredicate → Json
  | .distance field centre radius method =>
    .ofFields [("distance", .string radius), ("distance_type", .string method.label),
      (field, centre.toJson)]
  | .boundingBox field topLeft bottomRight =>
    .object [(field,
      .object [("bottom_right", bottomRight.toJson), ("top_left", topLeft.toJson)])]
  | .shape field outline relation =>
    .object [(field, .object [("relation", .string relation.label), ("shape", .object outline)])]

end GeoPredicate

end SearchCriteria
