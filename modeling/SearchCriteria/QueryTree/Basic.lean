import SearchCriteria.QueryTree.GeoPredicate
import SearchCriteria.QueryTree.Leaf
import SearchCriteria.Related

/-!
# Query trees

What a search engine is asked: predicates, joined by boolean queries, moved to nested documents,
children or parents, and queries in the engine's own words, which nobody here looks into.
-/

namespace SearchCriteria

mutual

inductive QueryTree where
  | leaf (predicate : Leaf) (boost : Option Double)
  | geo (predicate : GeoPredicate)
  | wrapper (source : String)
  | bool (query : BoolQuery)
  | nested (path : String) (query : QueryTree) (scoreMode : ScoreMode) (boost : Option Double)
  | hasChild (type : String) (query : QueryTree) (scoreMode : ScoreMode)
    (innerHits : Option InnerHits) (boost : Option Double)
  | hasParent (type : String) (query : QueryTree) (score : Bool) (innerHits : Option InnerHits)
    (boost : Option Double)

/-- Clauses that have to match, alternatives, clauses that must not match, and clauses that have to
match without a score. -/
structure BoolQuery where
  must : List QueryTree
  should : List QueryTree
  mustNot : List QueryTree
  filter : List QueryTree
  /-- How many alternatives have to match; without it the search engine decides. -/
  minimumShouldMatch : Option Nat
  boost : Option Double

end

namespace BoolQuery

/-- The query without clauses. -/
def none : BoolQuery :=
  { must := [], should := [], mustNot := [], filter := [], minimumShouldMatch := .none
    boost := .none }

def isEmpty (q : BoolQuery) : Bool :=
  q.must.isEmpty && q.should.isEmpty && q.mustNot.isEmpty && q.filter.isEmpty

end BoolQuery

namespace QueryTree

def matchAll : QueryTree := .leaf .matchAll none

/-- What does not match a query. -/
def not (query : QueryTree) : QueryTree :=
  .bool { BoolQuery.none with mustNot := [query] }

def kind : QueryTree → String
  | .leaf predicate _ => predicate.kind
  | .geo predicate => predicate.kind
  | .wrapper _ => "wrapper"
  | .bool _ => "bool"
  | .nested .. => "nested"
  | .hasChild .. => "has_child"
  | .hasParent .. => "has_parent"

/-- Sets the boost of a query. Predicates on places and shapes and the engine's own words have
none. -/
def boosted (boost : Double) : QueryTree → QueryTree
  | .leaf predicate _ => .leaf predicate boost
  | .geo predicate => .geo predicate
  | .wrapper source => .wrapper source
  | .bool query => .bool { query with boost }
  | .nested path query scoreMode _ => .nested path query scoreMode boost
  | .hasChild type query scoreMode innerHits _ => .hasChild type query scoreMode innerHits boost
  | .hasParent type query score innerHits _ => .hasParent type query score innerHits boost

/-- Sets the boost of a query if there is one to set. -/
def withBoost (query : QueryTree) : Option Double → QueryTree
  | none => query
  | some boost => query.boosted boost

@[simp] theorem withBoost_none (query : QueryTree) : query.withBoost none = query := rfl

@[simp] theorem withBoost_some (query : QueryTree) (boost : Double) :
    query.withBoost (some boost) = query.boosted boost := rfl

@[simp] theorem kind_boosted (query : QueryTree) (boost : Double) :
    (query.boosted boost).kind = query.kind := by
  cases query <;> rfl

end QueryTree

end SearchCriteria
