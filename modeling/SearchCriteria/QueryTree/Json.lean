import SearchCriteria.QueryTree.Basic
import SearchCriteria.Text.Base64

/-!
# Query trees as JSON

A query is an object with one field, which is named for the kind of the query. Whatever a query does
not have is left out. A query in the engine's own words is written in base 64.
-/

namespace SearchCriteria

def InnerHits.toJson (hits : InnerHits) : Json :=
  .ofFields (hits.name.toList.map (fun name => ("name", .string name))
    ++ hits.start.toList.map (fun start => ("from", .ofNat start))
    ++ hits.size.toList.map (fun size => ("size", .ofNat size)))

namespace QueryTree

def innerHitsFields (hits : Option InnerHits) : List (String × Json) :=
  hits.toList.map fun found => ("inner_hits", found.toJson)

/-- Clauses as a field, if there are any. -/
def clauseFields (name : String) (clauses : List Json) : List (String × Json) :=
  if clauses.isEmpty then [] else [(name, .array clauses)]

mutual

/-- What stands under the kind of a query. -/
def body : QueryTree → Json
  | .leaf predicate boost => predicate.body boost
  | .geo predicate => predicate.body
  | .wrapper source => .object [("query", .string (Text.Base64.ofText source))]
  | .bool query => boolBody query
  | .nested path query scoreMode boost =>
    .ofFields ([("path", .string path), ("query", .object [(query.kind, query.body)]),
      ("score_mode", .string scoreMode.label)] ++ Leaf.boostFields boost)
  | .hasChild type query scoreMode innerHits boost =>
    .ofFields ([("type", .string type), ("query", .object [(query.kind, query.body)]),
      ("score_mode", .string scoreMode.label)]
      ++ innerHitsFields innerHits ++ Leaf.boostFields boost)
  | .hasParent type query score innerHits boost =>
    .ofFields ([("parent_type", .string type), ("query", .object [(query.kind, query.body)]),
      ("score", .bool score)] ++ innerHitsFields innerHits ++ Leaf.boostFields boost)

def boolBody : BoolQuery → Json
  | ⟨must, should, mustNot, filter, minimumShouldMatch, boost⟩ =>
    .ofFields (clauseFields "must" (jsonList must) ++ clauseFields "should" (jsonList should)
      ++ clauseFields "must_not" (jsonList mustNot) ++ clauseFields "filter" (jsonList filter)
      ++ minimumShouldMatch.toList.map (fun n => ("minimum_should_match", .ofNat n))
      ++ Leaf.boostFields boost)

def jsonList : List QueryTree → List Json
  | [] => []
  | query :: rest => .object [(query.kind, query.body)] :: jsonList rest

end

/-- The JSON form of a query. -/
def toJson (query : QueryTree) : Json :=
  .object [(query.kind, query.body)]

end QueryTree

/-- The JSON form of a boolean query. -/
def BoolQuery.toJson (query : BoolQuery) : Json :=
  (QueryTree.bool query).toJson

end SearchCriteria
