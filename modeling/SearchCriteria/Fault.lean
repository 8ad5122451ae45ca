import SearchCriteria.OperandKind
import SearchCriteria.QueryKind

/-!
# Faults

Everything that can be wrong with a query or with the settings it is compiled under. A fault is a
cause; its wording is in one place, and nothing else depends on it. Any fault in any part of a query
makes the whole query fail.
-/

namespace SearchCriteria

/-- Where an operator, a relation or a unit is not supported. -/
inductive Context where
  | catalog
  | query
  | filter
  | presence
  | text
  | range
  | membership
  | distanceUnit
  | shapeRelation
deriving DecidableEq, Repr

/-- What is wrong with the operand of an operator. -/
inductive OperandProblem where
  | wrongKind (accepted : List OperandKind) (got : OperandKind)
  | wrongCount (least most got : Nat)
  | notScalar (got : OperandKind)
  | notPair
  | notBound (got : OperandKind)
  | notSequence (got : OperandKind)
  | notTerm (got : OperandKind)
  | noTerm
  | notRelated (got : OperandKind)
  | notPointAndDistance
  | notPoint (got : OperandKind)
  | notDistance (got : OperandKind)
  | notCorners (count : Nat)
  | badGeohash (text : String)
  | notCorner (got : OperandKind)
  | notGeometry (got : OperandKind)
  | criteriaTooDeep (limit : Nat)
  | queriesTooDeep (limit : Nat)
deriving DecidableEq, Repr

/-- What is wrong with settings. -/
inductive SettingsProblem where
  | zeroDepth
  | blankFuzziness
deriving DecidableEq, Repr

inductive Fault where
  | invalidArgument (field operator : String) (problem : OperandProblem)
  | unsupportedOperator (operator : String) (context : Context)
  | unsupportedQuery (kind : QueryKind)
  /-- An operator stands in a criterion without a field. -/
  | missingField (operator : String)
  | invalidSettings (problem : SettingsProblem)
deriving DecidableEq, Repr

def Context.label : Context → String
  | .catalog => "operator catalog"
  | .query => "query context"
  | .filter => "filter context"
  | .presence => "presence predicate"
  | .text => "text predicate"
  | .range => "range predicate"
  | .membership => "membership predicate"
  | .distanceUnit => "distance unit"
  | .shapeRelation => "geo shape relation"

namespace OperandProblem

def criteriaOperator : String := "SUB_CRITERIA"

def queryOperator : String := "SUB_QUERY"

def message : OperandProblem → String
  | .wrongKind accepted got =>
    "expected " ++ " or ".intercalate (accepted.map OperandKind.label) ++ ", got " ++ got.label
  | .wrongCount least most got =>
    s!"expected between {least} and {most} values, got {got}"
  | .notScalar got => s!"expected a scalar, got {got.label}"
  | .notPair => "expected a [lower, upper] pair"
  | .notBound got => s!"cannot use a {got.label} as a range bound"
  | .notSequence got => s!"expected a sequence, got {got.label}"
  | .notTerm got => s!"cannot use a {got.label} as a term"
  | .noTerm => "text fields need at least one non-null term"
  | .notRelated got => s!"expected a relationship specification, got {got.label}"
  | .notPointAndDistance => "expected a point followed by a distance"
  | .notPoint got => s!"expected a geo point, point, lat/lon text or geohash, got {got.label}"
  | .notDistance got => s!"expected a distance or distance text, got {got.label}"
  | .notCorners count => s!"expected one bounding box or two corners, got {count} value(s)"
  | .badGeohash text => s!"invalid geohash corner '{text}'"
  | .notCorner got =>
    s!"expected a geo point, point, lat/lon text or geohash corner, got {got.label}"
  | .notGeometry got => s!"expected a geometry, got {got.label}"
  | .criteriaTooDeep limit => s!"criteria nested deeper than {limit} levels"
  | .queriesTooDeep limit => s!"queries nested deeper than {limit} levels"

end OperandProblem

def SettingsProblem.message : SettingsProblem → String
  | .zeroDepth => "max_depth must be at least 1"
  | .blankFuzziness => "fuzziness must not be empty"

namespace Fault

def message : Fault → String
  | .invalidArgument field operator problem =>
    s!"invalid argument for {operator} on field '{field}': " ++ problem.message
  | .unsupportedOperator operator context =>
    s!"unsupported operator '{operator}' ({context.label})"
  | .unsupportedQuery kind => s!"unsupported query type: {kind.label}"
  | .missingField operator => s!"criteria entry {operator} has no field"
  | .invalidSettings problem => s!"invalid compiler configuration: " ++ problem.message

/-- The field that a fault is about, if it is about one. -/
def field? : Fault → Option String
  | .invalidArgument field .. => some field
  | _ => none

/-- Whether a query is at fault and not the settings. -/
def isQueryFault : Fault → Bool
  | .invalidSettings _ => false
  | _ => true

/-- Criteria are nested deeper than the settings allow. The fault names no field. -/
def criteriaTooDeep (limit : Nat) : Fault :=
  .invalidArgument "" OperandProblem.criteriaOperator (.criteriaTooDeep limit)

/-- Queries are embedded deeper than the settings allow. The fault names no field. -/
def queriesTooDeep (limit : Nat) : Fault :=
  .invalidArgument "" OperandProblem.queryOperator (.queriesTooDeep limit)

end Fault

end SearchCriteria
