import SearchCriteria.Json.Basic
import SearchCriteria.Number.Layout

/-!
# Points and boxes

A point on the earth has a latitude and a longitude. The same point can be given on a plane, where
the first axis is the longitude.
-/

namespace SearchCriteria

structure GeoPoint where
  lat : Double
  lon : Double
deriving DecidableEq, Repr

structure PlanePoint where
  x : Double
  y : Double
deriving DecidableEq, Repr

/-- The box between its north-west and its south-east corner. -/
structure GeoBox where
  topLeft : GeoPoint
  bottomRight : GeoPoint
deriving DecidableEq, Repr

namespace GeoPoint

/-- Latitude and longitude with a comma between them. -/
def text (p : GeoPoint) : String :=
  String.ofList (p.lat.plainChars ++ ',' :: p.lon.plainChars)

def toJson (p : GeoPoint) : Json :=
  .object [("lat", .ofDouble p.lat), ("lon", .ofDouble p.lon)]

end GeoPoint

def PlanePoint.toGeoPoint (p : PlanePoint) : GeoPoint :=
  { lat := p.y, lon := p.x }

end SearchCriteria
