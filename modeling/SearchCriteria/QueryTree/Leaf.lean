import SearchCriteria.Connective
import SearchCriteria.Json.Basic

/-!
# Predicates on fields

The predicates of a query that hold no other query and can carry a boost.
-/

namespace SearchCriteria

/-- The bounds of a range, each of which may be missing. -/
structure Bounds where
  gt : Option Json
  gte : Option Json
  lt : Option Json
  lte : Option Json

inductive Leaf where
  | matchAll
  /-- A search text in the syntax of the search engine. -/
  | queryString (query : String) (fields : List String) (operator : Connective)
    (analyzeWildcard : Bool)
  /-- A text that is analysed as the field is. -/
  | matchText (field query : String) (operator : Connective)
  | fuzzy (field value : String) (fuzziness : Option String)
  | range (field : String) (bounds : Bounds)
  /-- A set of terms, in which null is a term of its own. -/
  | terms (field : String) (values : List (Option String))
  | fieldExists (field : String)
  | wildcard (field pattern : String)
  | regexp (field pattern : String)

namespace Bounds

def unbounded : Bounds :=
  { gt := none, gte := none, lt := none, lte := none }

def isUnbounded (b : Bounds) : Bool :=
  b.gt.isNone && b.gte.isNone && b.lt.isNone && b.lte.isNone

/-- The bounds that are present, under their names. -/
def fields (b : Bounds) : List (String × Json) :=
  [("gt", b.gt), ("gte", b.gte), ("lt", b.lt), ("lte", b.lte)].filterMap fun field =>
    field.2.map fun bound => (field.1, bound)

end Bounds

namespace Leaf

/-- A search text for one field, whose wildcards are not analysed. -/
def queryStringOn (field query : String) (operator : Connective) : Leaf :=
  .queryString query [field] operator false

def kind : Leaf → String
  | .matchAll => "match_all"
  | .queryString .. => "query_string"
  | .matchText .. => "match"
  | .fuzzy .. => "fuzzy"
  | .range .. => "range"
  | .terms .. => "terms"
  | .fieldExists _ => "exists"
  | .wildcard .. => "wildcard"
  | .regexp .. => "regexp"

/-- The boost as a field, if there is one. -/
def boostFields (boost : Option Double) : List (String × Json) :=
  boost.toList.map fun x => ("boost", .ofDouble x)

/-- What stands under the kind of a predicate. Where the name of a field is the name of something
else as well, the boost goes before the field. -/
def body (leaf : Leaf) (boost : Option Double) : Json :=
  let boosted (fields : List (String × Json)) : Json := .ofFields (fields ++ boostFields boost)
  match leaf with
  | .matchAll => boosted []
  | .queryString query fields operator analyzeWildcard =>
    boosted ([("query", .string query), ("fields", .ofTexts fields),
      ("default_operator", .string operator.label)]
      ++ if analyzeWildcard then [("analyze_wildcard", .bool true)] else [])
  | .matchText field query operator =>
    .object [(field, boosted [("query", .string query), ("operator", .string operator.label)])]
  | .fuzzy field value fuzziness =>
    .object [(field, boosted (("value", .string value)
      :: fuzziness.toList.map fun distance => ("fuzziness", .string distance)))]
  | .range field bounds => .object [(field, boosted bounds.fields)]
  | .terms field values => boosted [(field, .array (values.map (.ofOption .string)))]
  | .fieldExists field => boosted [("field", .string field)]
  | .wildcard field pattern => .object [(field, boosted [("value", .string pattern)])]
  | .regexp field pattern => .object [(field, boosted [("value", .string pattern)])]

end Leaf

end SearchCriteria
