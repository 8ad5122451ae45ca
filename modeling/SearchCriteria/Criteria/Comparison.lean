import SearchCriteria.Criteria.Basic

/-!
# Queries that equal their copy

Numbers are compared as numbers, and what is no number differs from itself. So a query equals a copy
of itself exactly when no number in it is none. Numbers can stand in operands, in boosts and in the
points of finished query trees; those in JSON values are always finite.
-/

namespace SearchCriteria

def GeoPoint.holdsNaN (p : GeoPoint) : Bool :=
  p.lat.isNaN || p.lon.isNaN

def Position.holdsNaN (p : Position) : Bool :=
  p.lon.isNaN || p.lat.isNaN

def Location.holdsNaN : Location → Bool
  | .latLon point => point.holdsNaN
  | .text _ => false
  | .geohash _ => false

def GeoPredicate.holdsNaN : GeoPredicate → Bool
  | .distance _ centre _ _ => centre.holdsNaN
  | .boundingBox _ topLeft bottomRight => topLeft.holdsNaN || bottomRight.holdsNaN
  | .shape .. => false

mutual

def Geometry.holdsNaN : Geometry → Bool
  | .point position => position.holdsNaN
  | .multiPoint positions => positions.any Position.holdsNaN
  | .lineString positions => positions.any Position.holdsNaN
  | .multiLineString lines => lines.any (·.any Position.holdsNaN)
  | .polygon rings => rings.any (·.any Position.holdsNaN)
  | .multiPolygon polygons => polygons.any (·.any (·.any Position.holdsNaN))
  | .collection members => Geometry.membersHoldNaN members

def Geometry.membersHoldNaN : List Geometry → Bool
  | [] => false
  | member :: rest => member.holdsNaN || Geometry.membersHoldNaN rest

end

mutual

def QueryTree.holdsNaN : QueryTree → Bool
  | .leaf _ boost => boost.any Double.isNaN
  | .geo predicate => predicate.holdsNaN
  | .wrapper _ => false
  | .bool query => query.holdsNaN
  | .nested _ query _ boost => query.holdsNaN || boost.any Double.isNaN
  | .hasChild _ query _ _ boost => query.holdsNaN || boost.any Double.isNaN
  | .hasParent _ query _ _ boost => query.holdsNaN || boost.any Double.isNaN

def BoolQuery.holdsNaN : BoolQuery → Bool
  | ⟨must, should, mustNot, filter, _, boost⟩ =>
    QueryTree.listHoldsNaN must || QueryTree.listHoldsNaN should || QueryTree.listHoldsNaN mustNot
      || QueryTree.listHoldsNaN filter || boost.any Double.isNaN

def QueryTree.listHoldsNaN : List QueryTree → Bool
  | [] => false
  | query :: rest => query.holdsNaN || QueryTree.listHoldsNaN rest

end

mutual

def Operand.holdsNaN : Operand → Bool
  | .float value => value.isNaN
  | .sequence items => Operand.listHoldsNaN items
  | .geoPoint value => value.holdsNaN
  | .planePoint value => value.x.isNaN || value.y.isNaN
  | .distance value => value.value.isNaN
  | .geoBox value => value.topLeft.holdsNaN || value.bottomRight.holdsNaN
  | .geometry value => value.holdsNaN
  | .hasChild _ query _ _ => query.holdsNaN
  | .hasParent _ query _ _ => query.holdsNaN
  | _ => false

def Operand.listHoldsNaN : List Operand → Bool
  | [] => false
  | operand :: rest => operand.holdsNaN || Operand.listHoldsNaN rest

def Query.holdsNaN : Query → Bool
  | .criteria criteria => criteria.holdsNaN
  | .native tree => tree.holdsNaN
  | .wrapped query => query.holdsNaN
  | _ => false

def Criteria.holdsNaN : Criteria → Bool
  | ⟨chain⟩ => Criteria.chainHoldsNaN chain

def Criteria.chainHoldsNaN : List Criterion → Bool
  | [] => false
  | ⟨_, _, _, queryEntries, filterEntries, boost, nested⟩ :: rest =>
    Criteria.entriesHoldNaN queryEntries || Criteria.entriesHoldNaN filterEntries
      || boost.any Double.isNaN || Criteria.nestedHoldsNaN nested || Criteria.chainHoldsNaN rest

def Criteria.entriesHoldNaN : List Entry → Bool
  | [] => false
  | ⟨_, operand⟩ :: rest => operand.holdsNaN || Criteria.entriesHoldNaN rest

def Criteria.nestedHoldsNaN : List Criteria → Bool
  | [] => false
  | criteria :: rest => criteria.holdsNaN || Criteria.nestedHoldsNaN rest

end

/-- Whether a query equals a copy of itself. -/
def Query.equalsItsCopy (query : Query) : Bool :=
  !query.holdsNaN

end SearchCriteria
