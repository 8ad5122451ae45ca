import SearchCriteria.Proofs.Attachment
import SearchCriteria.Proofs.Nesting

/-!
# Where criteria and queries stand

Criteria stand in others if they are nested in them, or if a query embedded in them consists of
them, however many levels down. In a query tree, parts stand below boolean queries, in nested
documents, and in what is asked of children and parents.

A tree that a caller hands over finished is not looked into. It can only stand where a query can be
embedded, so it is there, and nowhere else, that a part of a tree may be quoted.
-/

namespace SearchCriteria

/-- The criteria that a query consists of, whether it is wrapped or not. -/
def Query.criteria? : Query → Option Criteria
  | .criteria made => some made
  | .wrapped query => query.criteria?
  | .text _ => none
  | .native _ => none
  | .template _ _ => none

/-- The finished tree that a query consists of, whether it is wrapped or not. -/
def Query.native? : Query → Option QueryTree
  | .native finished => some finished
  | .wrapped query => query.native?
  | .text _ => none
  | .criteria _ => none
  | .template _ _ => none

namespace Criteria

/-- Criteria stand in others, so many levels down. One level leads to criteria that are nested in a
chain, or to those of a query that is embedded in it. -/
inductive Reaches : Criteria → Nat → Criteria → Prop where
  | itself (criteria : Criteria) : Reaches criteria 0 criteria
  | nested {criteria nested inner : Criteria} {level : Nat} (nests : criteria.Nests nested)
      (below : Reaches nested level inner) : Reaches criteria (level + 1) inner
  | embedded {criteria asked inner : Criteria} {query : Query} {level : Nat}
      (embeds : criteria.Embeds query) (consists : query.criteria? = some asked)
      (below : Reaches asked level inner) : Reaches criteria (level + 1) inner

/-- A query is embedded in criteria, at whatever level. -/
def EmbedsDeep (criteria : Criteria) (query : Query) : Prop :=
  ∃ level inner, criteria.Reaches level inner ∧ inner.Embeds query

theorem Embeds.deep {criteria : Criteria} {query : Query} (h : criteria.Embeds query) :
    criteria.EmbedsDeep query :=
  ⟨0, criteria, .itself criteria, h⟩

theorem Nests.deep {criteria nested : Criteria} {query : Query} (h : criteria.Nests nested)
    (inside : nested.EmbedsDeep query) : criteria.EmbedsDeep query := by
  obtain ⟨level, inner, reached, embeds⟩ := inside
  exact ⟨level + 1, inner, .nested h reached, embeds⟩

theorem Embeds.deep_of_criteria {criteria asked : Criteria} {query other : Query}
    (h : criteria.Embeds query) (consists : query.criteria? = some asked)
    (inside : asked.EmbedsDeep other) : criteria.EmbedsDeep other := by
  obtain ⟨level, inner, reached, embeds⟩ := inside
  exact ⟨level + 1, inner, .embedded h consists reached, embeds⟩

end Criteria

/-- The kinds of clauses of a boolean query. -/
inductive ClauseKind where
  | must
  | should
  | mustNot
  | filter
deriving DecidableEq, Repr

/-- The clauses of a kind. -/
def BoolQuery.clausesOf (q : BoolQuery) : ClauseKind → List QueryTree
  | .must => q.must
  | .should => q.should
  | .mustNot => q.mustNot
  | .filter => q.filter

/-- All clauses of a boolean query. -/
def BoolQuery.clauses (q : BoolQuery) : List QueryTree :=
  q.must ++ q.should ++ q.mustNot ++ q.filter

/-- A filter behind the others is one more clause. -/
theorem BoolQuery.clauses_filter (q : BoolQuery) (filter : QueryTree) (minimum : Option Nat) :
    { q with filter := q.filter ++ [filter], minimumShouldMatch := minimum }.clauses =
      q.clauses ++ [filter] :=
  (List.append_assoc ..).symm

/-- The clauses of a boolean query are those of all kinds. -/
theorem BoolQuery.mem_clauses_iff {q : BoolQuery} {clause : QueryTree} :
    clause ∈ q.clauses ↔ ∃ kind, clause ∈ q.clausesOf kind := by
  simp only [clauses, List.mem_append]
  constructor
  · rintro (((mem | mem) | mem) | mem)
    · exact ⟨.must, mem⟩
    · exact ⟨.should, mem⟩
    · exact ⟨.mustNot, mem⟩
    · exact ⟨.filter, mem⟩
  · rintro ⟨kind, mem⟩
    cases kind with
    | must => exact .inl (.inl (.inl mem))
    | should => exact .inl (.inl (.inr mem))
    | mustNot => exact .inl (.inr mem)
    | filter => exact .inr mem

theorem BoolQuery.sizeOf_lt_of_mem {q : BoolQuery} {clause : QueryTree} (h : clause ∈ q.clauses) :
    sizeOf clause < sizeOf q := by
  obtain ⟨must, should, mustNot, filter, minimum, boost⟩ := q
  simp only [clauses, List.mem_append] at h
  rcases h with ((mem | mem) | mem) | mem <;>
    · have := List.sizeOf_lt_of_mem mem
      simp only [BoolQuery.mk.sizeOf_spec]
      omega

namespace QueryTree

/-- What goes from the parts of a tree to the tree holds of every tree. -/
@[elab_as_elim]
theorem induction_on_parts {P : QueryTree → Prop}
    (leaf : ∀ predicate boost, P (.leaf predicate boost)) (geo : ∀ predicate, P (.geo predicate))
    (wrapper : ∀ source, P (.wrapper source))
    (bool : ∀ q, (∀ clause ∈ q.clauses, P clause) → P (.bool q))
    (nested : ∀ path query scoreMode boost, P query → P (.nested path query scoreMode boost))
    (hasChild : ∀ type query scoreMode innerHits boost, P query →
      P (.hasChild type query scoreMode innerHits boost))
    (hasParent : ∀ type query score innerHits boost, P query →
      P (.hasParent type query score innerHits boost)) : ∀ tree, P tree
  | .leaf predicate boost => leaf predicate boost
  | .geo predicate => geo predicate
  | .wrapper source => wrapper source
  | .bool q => bool q fun clause _ =>
    induction_on_parts leaf geo wrapper bool nested hasChild hasParent clause
  | .nested path query scoreMode boost => nested path query scoreMode boost
    (induction_on_parts leaf geo wrapper bool nested hasChild hasParent query)
  | .hasChild type query scoreMode innerHits boost => hasChild type query scoreMode innerHits boost
    (induction_on_parts leaf geo wrapper bool nested hasChild hasParent query)
  | .hasParent type query score innerHits boost => hasParent type query score innerHits boost
    (induction_on_parts leaf geo wrapper bool nested hasChild hasParent query)
termination_by tree => sizeOf tree
decreasing_by
  · have := BoolQuery.sizeOf_lt_of_mem ‹_›
    simp only [QueryTree.bool.sizeOf_spec]
    omega
  all_goals
    simp only [QueryTree.nested.sizeOf_spec, QueryTree.hasChild.sizeOf_spec,
      QueryTree.hasParent.sizeOf_spec]
    omega

/-- What a tree asks of the children or the parent of a document. -/
def asked? : QueryTree → Option QueryTree
  | .hasChild _ query _ _ _ => some query
  | .hasParent _ query _ _ _ => some query
  | _ => none

@[simp] theorem asked?_withBoost (tree : QueryTree) (boost : Option Double) :
    (tree.withBoost boost).asked? = tree.asked? := by
  cases boost with
  | none => rfl
  | some boost => cases tree <;> rfl

/-- A tree shows what stands in it, itself included. What is asked of children or of a parent is not
looked into if it is quoted. -/
inductive Shows (quoted : QueryTree → Prop) : QueryTree → QueryTree → Prop where
  | itself (tree : QueryTree) : Shows quoted tree tree
  | clause {q : BoolQuery} {clause part : QueryTree} (mem : clause ∈ q.clauses)
      (below : Shows quoted clause part) : Shows quoted (.bool q) part
  | nested {path : String} {query part : QueryTree} {scoreMode : ScoreMode} {boost : Option Double}
      (below : Shows quoted query part) : Shows quoted (.nested path query scoreMode boost) part
  | related {tree query part : QueryTree} (asks : tree.asked? = some query)
      (unquoted : ¬ quoted query) (below : Shows quoted query part) : Shows quoted tree part

/-- The more is quoted, the less is shown. -/
theorem Shows.of_more {quoted quoted' : QueryTree → Prop} {tree part : QueryTree}
    (shown : tree.Shows quoted' part) (more : ∀ query, quoted query → quoted' query) :
    tree.Shows quoted part := by
  induction shown with
  | itself tree => exact .itself tree
  | clause mem _ ih => exact .clause mem ih
  | nested _ ih => exact .nested ih
  | related asks unquoted _ ih => exact .related asks (mt (more _) unquoted) ih

/-- A tree contains what stands in it, itself included, wherever that is. -/
def Contains (tree part : QueryTree) : Prop :=
  tree.Shows (fun _ => False) part

namespace Contains

variable {tree middle part : QueryTree}

theorem trans (first : tree.Contains middle) (second : middle.Contains part) :
    tree.Contains part := by
  induction first with
  | itself tree => exact second
  | clause mem _ ih => exact .clause mem (ih second)
  | nested _ ih => exact .nested (ih second)
  | related asks unquoted _ ih => exact .related asks unquoted (ih second)

theorem of_clause {q : BoolQuery} (mem : part ∈ q.clauses) : (QueryTree.bool q).Contains part :=
  .clause mem (.itself part)

end Contains

end QueryTree

end SearchCriteria
