import SearchCriteria.QueryTree.Basic

/-!
# Documents that match a query tree

A search engine knows of every document which queries it matches that are not boolean; what such a
query holds is its own business. From there on the rule for boolean queries decides: what must match
or filters has to match, what must not match has not to, and enough of the alternatives have to.

How many alternatives are enough can be left to the engine. It asks for one if nothing else has to
match, and for none otherwise. Clauses that must not match make no difference to that, and a boost
changes scores only.
-/

namespace SearchCriteria

/-- What is known of one document: which queries that are not boolean it matches. -/
abbrev Document := QueryTree → Bool

/-- A document that has fields and matches nothing else. -/
def Document.having (names : List String) : Document
  | .leaf (.fieldExists name) _ => names.contains name
  | _ => false

/-- A document that has fields, indexed fields, and fields in nested documents, and matches nothing
else. -/
def Document.indexing (names indexed : List String) (nested : List (String × String)) : Document
  | .leaf (.fieldExists name) _ => names.contains name
  | .leaf (.wildcard name _) _ => indexed.contains name
  | .nested path (.leaf (.fieldExists name) _) _ _ => nested.contains (path, name)
  | _ => false

/-- Whether a query matches a document does not depend on the boost of the query. -/
structure Document.IgnoresBoosts (document : Document) : Prop where
  leaf : ∀ predicate boost boost',
    document (.leaf predicate boost) = document (.leaf predicate boost')
  nested : ∀ path query scoreMode boost boost',
    document (.nested path query scoreMode boost) = document (.nested path query scoreMode boost')
  hasChild : ∀ type query scoreMode innerHits boost boost',
    document (.hasChild type query scoreMode innerHits boost)
      = document (.hasChild type query scoreMode innerHits boost')
  hasParent : ∀ type query score innerHits boost boost',
    document (.hasParent type query score innerHits boost)
      = document (.hasParent type query score innerHits boost')

/-- How many alternatives have to match. -/
def BoolQuery.neededAlternatives (q : BoolQuery) : Nat :=
  q.minimumShouldMatch.getD
    (if !q.should.isEmpty && q.must.isEmpty && q.filter.isEmpty then 1 else 0)

mutual

/-- Whether a query tree holds for a document. -/
def QueryTree.holds (document : Document) : QueryTree → Bool
  | .bool query => query.holds document
  | query => document query

def BoolQuery.holds (document : Document) : BoolQuery → Bool
  | ⟨must, should, mustNot, filter, minimum, boost⟩ =>
    (QueryTree.answers document must).all id && (QueryTree.answers document filter).all id
      && (QueryTree.answers document mustNot).all not
      && BoolQuery.neededAlternatives ⟨must, should, mustNot, filter, minimum, boost⟩
        ≤ (QueryTree.answers document should).countP id

def QueryTree.answers (document : Document) : List QueryTree → List Bool
  | [] => []
  | query :: rest => query.holds document :: QueryTree.answers document rest

end

namespace QueryTree

variable {document : Document}

@[simp] theorem holds_bool (query : BoolQuery) :
    (bool query).holds document = query.holds document := by
  rw [holds]

@[simp] theorem holds_nested (path : String) (query : QueryTree) (scoreMode : ScoreMode)
    (boost : Option Double) :
    (nested path query scoreMode boost).holds document
      = document (nested path query scoreMode boost) := by
  rw [holds]
  exact fun _ h => by cases h

@[simp] theorem holds_geo (predicate : GeoPredicate) :
    (geo predicate).holds document = document (geo predicate) := by
  rw [holds]
  exact fun _ h => by cases h

theorem answers_eq_map (document : Document) (queries : List QueryTree) :
    answers document queries = queries.map (holds document) := by
  induction queries with
  | nil => rw [answers, List.map_nil]
  | cons query rest ih => rw [answers, ih, List.map_cons]

end QueryTree

namespace BoolQuery

variable {document : Document}

theorem holds_iff (q : BoolQuery) :
    q.holds document ↔
      (∀ t ∈ q.must, t.holds document) ∧ (∀ t ∈ q.filter, t.holds document) ∧
        (∀ t ∈ q.mustNot, t.holds document = false) ∧
        q.neededAlternatives ≤ q.should.countP (QueryTree.holds document) := by
  obtain ⟨must, should, mustNot, filter, minimum, boost⟩ := q
  rw [holds]
  simp only [QueryTree.answers_eq_map, Bool.and_eq_true, List.all_map, List.all_eq_true,
    Function.comp_apply, Bool.not_eq_true', decide_eq_true_eq, List.countP_map, Function.id_comp,
    and_assoc]

/-- A boolean query of which no filter is known and whose alternatives are left to the engine. The
queries of chains are of this kind. -/
structure IsPlain (q : BoolQuery) : Prop where
  filter : q.filter = []
  minimum : q.minimumShouldMatch = Option.none

/-- Nothing has to match but one of the alternatives. -/
def NeedsAlternative (q : BoolQuery) : Prop :=
  q.must = [] ∧ q.should ≠ []

namespace IsPlain

variable {q strict loose : BoolQuery}

theorem neededAlternatives_le_countP_iff (plain : q.IsPlain) :
    q.neededAlternatives ≤ q.should.countP (QueryTree.holds document) ↔
      (q.NeedsAlternative → ∃ t ∈ q.should, t.holds document) := by
  rw [neededAlternatives, plain.minimum, plain.filter, Option.getD_none, NeedsAlternative,
    ← List.countP_pos_iff]
  cases q.must <;> cases q.should <;> simp [Nat.succ_le_iff]

theorem holds_iff (plain : q.IsPlain) :
    q.holds document ↔
      (∀ t ∈ q.must, t.holds document) ∧ (∀ t ∈ q.mustNot, t.holds document = false) ∧
        (q.NeedsAlternative → ∃ t ∈ q.should, t.holds document) := by
  rw [BoolQuery.holds_iff, plain.neededAlternatives_le_countP_iff, plain.filter]
  simp

/-- A query that asks for as much and more holds for fewer documents. The alternatives of the looser
one only count if it needs one of them. -/
theorem holds_of_holds (plain : strict.IsPlain) (plain' : loose.IsPlain)
    (must : loose.must ⊆ strict.must) (mustNot : loose.mustNot ⊆ strict.mustNot)
    (should : loose.NeedsAlternative → strict.NeedsAlternative ∧ strict.should ⊆ loose.should)
    (h : strict.holds document) : loose.holds document := by
  obtain ⟨required, excluded, alternative⟩ := plain.holds_iff.mp h
  refine plain'.holds_iff.mpr ⟨fun t ht => required t (must ht),
    fun t ht => excluded t (mustNot ht), fun needed => ?_⟩
  obtain ⟨needed', among⟩ := should needed
  obtain ⟨t, ht, found⟩ := alternative needed'
  exact ⟨t, among ht, found⟩

end IsPlain

end BoolQuery

/-- A boost changes nothing for documents that do not look at it. -/
theorem QueryTree.holds_withBoost {document : Document} (blind : document.IgnoresBoosts)
    (query : QueryTree) (boost : Option Double) :
    (query.withBoost boost).holds document = query.holds document := by
  cases boost with
  | none => rfl
  | some boost =>
    cases query with
    | leaf predicate own => simpa [boosted, holds] using blind.leaf predicate boost own
    | geo | wrapper => rfl
    | bool q =>
      obtain ⟨must, should, mustNot, filter, minimum, own⟩ := q
      rw [withBoost_some, boosted, holds_bool, holds_bool, BoolQuery.holds, BoolQuery.holds]
      rfl
    | nested path query scoreMode own =>
      simpa [boosted, holds] using blind.nested path query scoreMode boost own
    | hasChild type query scoreMode innerHits own =>
      simpa [boosted, holds] using blind.hasChild type query scoreMode innerHits boost own
    | hasParent type query score innerHits own =>
      simpa [boosted, holds] using blind.hasParent type query score innerHits boost own

theorem QueryTree.holds_not {document : Document} (query : QueryTree) :
    query.not.holds document = !query.holds document := by
  rw [Bool.eq_iff_iff, QueryTree.not, holds_bool, BoolQuery.IsPlain.holds_iff ⟨rfl, rfl⟩]
  simp [BoolQuery.none, BoolQuery.NeedsAlternative]

end SearchCriteria
