import SearchCriteria.Calendar
import SearchCriteria.Field
import SearchCriteria.Geo.Distance
import SearchCriteria.Geo.Geometry
import SearchCriteria.Operator
import SearchCriteria.QueryTree.Basic

/-!
# Criteria

Criteria are a chain of criteria on single fields, each joined to those before it. What an operator
is applied to can hold a whole query, for the children or the parent of a document, and a criterion
can hold nested criteria, so these types refer to each other.
-/

namespace SearchCriteria

mutual

/-- What an operator is applied to. -/
inductive Operand where
  /-- An explicit null: no bound in a pair of bounds, a term of its own in a set of terms. -/
  | null
  | bool (value : Bool)
  | integer (value : Int)
  | float (value : Double)
  | text (value : String)
  | instant (value : Instant)
  | date (value : Date)
  | sequence (items : List Operand)
  | geoPoint (value : GeoPoint)
  | planePoint (value : PlanePoint)
  | distance (value : Distance)
  | geoBox (value : GeoBox)
  | geometry (value : Geometry)
  /-- Asks for documents with children of a type that match a query. -/
  | hasChild (type : String) (query : Query) (scoreMode : Option ScoreMode)
    (innerHits : Option InnerHits)
  /-- Asks for documents with a parent of a type that matches a query. -/
  | hasParent (type : String) (query : Query) (score : Bool) (innerHits : Option InnerHits)

/-- A query as a caller hands it over. -/
inductive Query where
  | criteria (criteria : Criteria)
  /-- A query in the words of the search engine. -/
  | text (source : String)
  | native (tree : QueryTree)
  | wrapped (query : Query)
  /-- A template that the search engine has stored. -/
  | template (id : String) (params : List (String × Json))

/-- An operator with what it is applied to. -/
structure Entry where
  operator : Operator
  operand : Operand

structure Criterion where
  field : Option Field
  /-- How the criterion is joined to those before it. -/
  joiner : Connective
  negated : Bool
  /-- The entries that score. -/
  queryEntries : List Entry
  /-- The entries that only filter. -/
  filterEntries : List Entry
  boost : Option Double
  /-- Criteria that are joined to the chain as a whole, in the way this criterion is. -/
  nested : List Criteria

structure Criteria where
  chain : List Criterion

end

def Query.kind : Query → QueryKind
  | .criteria _ => .criteria
  | .text _ => .text
  | .native _ => .native
  | .wrapped _ => .wrapped
  | .template .. => .template

namespace Criterion

/-- A criterion without a field, which can hold nested criteria. -/
def blank : Criterion :=
  { field := none, joiner := .and, negated := false, queryEntries := [], filterEntries := []
    boost := none, nested := [] }

/-- A criterion on a field that asks nothing of it yet. -/
def on (field : Field) : Criterion :=
  { blank with field := some field }

/-- Adds an entry to those that score or to those that only filter, as its operator says. -/
def addEntry (c : Criterion) (entry : Entry) : Criterion :=
  match entry.operator.context with
  | .query => { c with queryEntries := c.queryEntries ++ [entry] }
  | .filter => { c with filterEntries := c.filterEntries ++ [entry] }

/-- Sets the boost; what is no number leaves it unset. -/
def setBoost (c : Criterion) (boost : Double) : Criterion :=
  { c with boost := if boost.isNaN then none else some boost }

end Criterion

namespace Criteria

/-- The chain without criteria. -/
def empty : Criteria := ⟨[]⟩

def isEmpty (c : Criteria) : Bool :=
  c.chain.isEmpty

mutual

/-- The number of criteria in a chain and in all that are nested in it. -/
def size : Criteria → Nat
  | ⟨chain⟩ => sizeOfChain chain

def sizeOfChain : List Criterion → Nat
  | [] => 0
  | ⟨_, _, _, _, _, _, nested⟩ :: rest => 1 + sizeOfNested nested + sizeOfChain rest

def sizeOfNested : List Criteria → Nat
  | [] => 0
  | criteria :: rest => size criteria + sizeOfNested rest

end

end Criteria

end SearchCriteria
