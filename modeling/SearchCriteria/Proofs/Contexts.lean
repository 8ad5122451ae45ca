import SearchCriteria.Proofs.Construction
import SearchCriteria.Proofs.FilterVerdict

/-!
# Scoring trees do not filter and filters do not score

An operator either scores or only filters, and an entry usually stands where its operator belongs. A
caller can put it elsewhere by hand; then it is refused, and nothing compiles. So whatever compiles
keeps the two apart. A scoring tree has no predicates on places and shapes, except where children or
a parent are asked for, since the query that is embedded there brings its own filter. A filter has
nothing but such predicates in it, on nested documents or not, and boolean queries, and none of its
nodes has a score or a boost, whatever boosts the criteria have.
-/

namespace SearchCriteria

namespace QueryTree

variable {tree part : QueryTree}

/-- A node that only filters: a predicate on a place or a shape, a boolean query without a boost, or
a move to nested documents without a score or a boost. -/
inductive IsFilterNode : QueryTree → Prop where
  | geo (predicate : GeoPredicate) : IsFilterNode (.geo predicate)
  | bool {q : BoolQuery} (unboosted : q.boost = none) : IsFilterNode (.bool q)
  | nested (path : String) (query : QueryTree) : IsFilterNode (.nested path query .none none)

theorem Filters.isFilterNode (h : tree.Filters) : tree.IsFilterNode := by
  cases h with
  | geo predicate => exact .geo predicate
  | nested path predicate => exact .nested path (.geo predicate)
  | bool _ _ unboosted _ => exact .bool unboosted

/-- All that a tree that filters contains filters. -/
theorem Filters.of_contains (h : tree.Filters) (contains : tree.Contains part) : part.Filters := by
  induction contains with
  | itself tree => exact h
  | clause mem _ ih =>
    cases h with
    | bool _ _ _ each => exact ih (each _ mem)
  | nested _ ih =>
    cases h with
    | nested path predicate => exact ih (.geo predicate)
  | related asks _ _ _ => cases h <;> cases asks

/-- A tree does not filter outside of what is asked of related documents. -/
def OnlyScores (tree : QueryTree) : Prop :=
  ∀ predicate, ¬ tree.Shows (fun _ => True) (.geo predicate)

theorem onlyScores_of_asked {query : QueryTree} (asks : tree.asked? = some query) :
    tree.OnlyScores := by
  intro predicate shown
  cases shown with
  | itself => cases asks
  | clause => cases asks
  | nested => cases asks
  | related _ unquoted => exact unquoted trivial

/-- What is built does not filter if the given parts do not. -/
theorem Built.onlyScores {given : QueryTree → Prop} (h : tree.Built given)
    (parts : ∀ part, given part → part.OnlyScores) : tree.OnlyScores := by
  induction h with
  | part known => exact parts _ known
  | leaf predicate boost =>
    rintro geo (_ | _ | _ | ⟨⟨⟩⟩)
  | bool _ _ _ ih =>
    intro geo shown
    cases shown with
    | clause mem below => exact ih _ mem geo below
    | related asks => cases asks
  | nested _ _ _ _ ih =>
    intro geo shown
    cases shown with
    | nested below => exact ih geo below
    | related asks => cases asks

end QueryTree

namespace Compiler

variable {c : Compiler} {depth : Nat}

theorem criteriaAt_onlyScores {criteria : Criteria} {tree : QueryTree}
    (h : c.criteriaAt depth criteria = .ok (some tree)) : tree.OnlyScores := by
  induction criteria using Criteria.induction_on_nested generalizing depth tree with
  | step criteria ih =>
    apply (criteriaAt_built h).onlyScores
    intro part given
    cases given with
    | related _ _ asks => exact QueryTree.onlyScores_of_asked asks
    | nested nests compiled => exact ih _ nests compiled

/-- Whatever compiles keeps the contexts apart, wherever entries were put: scoring trees have no
predicates on places and shapes outside of relationships, and filters have nothing else, without
scores and boosts. -/
theorem compiled_contexts (c : Compiler) (criteria : Criteria) :
    (∀ result, c.compile criteria = .ok result → ∀ tree ∈ result,
      ∀ predicate, ¬ tree.Shows (fun _ => True) (.geo predicate)) ∧
    ∀ result, c.compileFilter criteria = .ok result → ∀ tree ∈ result,
      ∀ part, tree.Contains part → part.IsFilterNode := by
  constructor
  · rintro _ compiled tree rfl
    exact criteriaAt_onlyScores compiled
  · intro result compiled tree made part contains
    have filters : tree.Filters := Filter.ofCriteria_filters compiled tree made
    exact (filters.of_contains contains).isFilterNode

/-- Children that are asked for by their place, on a boosted field that has a place itself. -/
def childrenInBox : Criteria :=
  let children : Entry := ⟨.hasChild, .hasChild "b" (.criteria ⟨[.boxed "c"]⟩) none none⟩
  ⟨[{ Criterion.boxed "a" with
    field := some { name := "a", type := none, path := some "p" }
    joiner := .or, negated := true, queryEntries := [children], boost := some (.zero false) }]⟩

/-- The place of the children is asked for in the scoring tree, but only of the children, and the
boost does not get into the filter. -/
theorem compiled_contexts_childrenInBox :
    ∃ scoring filter, standard.compile childrenInBox = .ok (some scoring) ∧
      standard.compileFilter childrenInBox = .ok (some filter) ∧
      (∃ predicate, scoring.Contains (.geo predicate)) ∧
      (∀ predicate, ¬ scoring.Shows (fun _ => True) (.geo predicate)) ∧
      ∀ part, filter.Contains part → part.IsFilterNode := by
  let place : GeoPredicate :=
    .boundingBox "c" (.latLon ⟨.zero false, .zero false⟩) (.latLon ⟨.zero false, .zero false⟩)
  have compiled : standard.compile childrenInBox = .ok (some _) := rfl
  have filtered : standard.compileFilter childrenInBox = .ok (some _) := rfl
  have contexts := compiled_contexts standard childrenInBox
  refine ⟨_, _, compiled, filtered, ⟨place, ?_⟩, contexts.1 _ compiled _ rfl,
    contexts.2 _ filtered _ rfl⟩
  refine .clause (List.mem_singleton_self _) (.clause (List.mem_singleton_self _) (.nested ?_))
  refine .related rfl not_false (.clause ?_ (.itself _))
  exact List.mem_cons_of_mem _ (List.mem_singleton_self _)

end Compiler

end SearchCriteria
