import SearchCriteria.Operator
import SearchCriteria.QueryTree.Basic

/-!
# Presence of a field

A field can be present and still hold nothing that is indexed.
-/

namespace SearchCriteria.Clause

/-- Matches every value that is indexed. -/
def anyValue (field : String) : QueryTree :=
  .leaf (.wildcard field "*") none

def presence (field : String) : Operator → Except Fault QueryTree
  | .present => .ok (.leaf (.fieldExists field) none)
  | .empty =>
    .ok (.bool { BoolQuery.none with
      must := [.leaf (.fieldExists field) none], mustNot := [anyValue field] })
  | .notEmpty => .ok (anyValue field)
  | op => .error (.unsupportedOperator op.label .presence)

end SearchCriteria.Clause
