import SearchCriteria.Proofs.Construction
import SearchCriteria.Proofs.FilterVerdict

/-!
# Boolean queries that ask for something

A boolean query without clauses matches every document, so one that is left over from an empty group
would turn a restriction into none. No such query is made. Where there is nothing to ask for there
is no tree at all, and that is the case only if there are no entries on any level. A minimum of
alternatives is always one, and then there are alternatives.

Trees that a caller hands over finished are not looked into. They stand only in relationships, as
they are, so those are the parts that are passed over.
-/

namespace SearchCriteria

/-- There is something in a boolean query, and alternatives if one of them is asked for. -/
structure BoolQuery.IsSubstantial (q : BoolQuery) : Prop where
  clauses : q.clauses ≠ []
  alternatives : ∀ n ∈ q.minimumShouldMatch, n = 1 ∧ q.should ≠ []

/-- All boolean queries that a tree shows are substantial. -/
def QueryTree.IsSubstantial (quoted : QueryTree → Prop) (tree : QueryTree) : Prop :=
  ∀ q, tree.Shows quoted (.bool q) → q.IsSubstantial

namespace QueryTree

variable {quoted : QueryTree → Prop}

theorem isSubstantial_leaf (predicate : Leaf) (boost : Option Double) :
    (leaf predicate boost).IsSubstantial quoted := by
  rintro q (_ | _ | _ | ⟨⟨⟩⟩)

theorem isSubstantial_geo (predicate : GeoPredicate) : (geo predicate).IsSubstantial quoted := by
  rintro q (_ | _ | _ | ⟨⟨⟩⟩)

theorem isSubstantial_wrapper (source : String) : (wrapper source).IsSubstantial quoted := by
  rintro q (_ | _ | _ | ⟨⟨⟩⟩)

theorem isSubstantial_bool_iff {q : BoolQuery} :
    (bool q).IsSubstantial quoted ↔
      q.IsSubstantial ∧ ∀ clause ∈ q.clauses, clause.IsSubstantial quoted := by
  constructor
  · intro all
    exact ⟨all q (.itself _), fun clause mem inner shown => all inner (.clause mem shown)⟩
  · rintro ⟨own, below⟩ inner shown
    cases shown with
    | itself => exact own
    | clause mem shown => exact below _ mem inner shown
    | related asks => cases asks

/-- Some clauses that are substantial, and nothing said of alternatives, make a substantial query.
-/
theorem isSubstantial_bool {q : BoolQuery} (some : q.clauses ≠ [])
    (free : q.minimumShouldMatch = none)
    (each : ∀ clause ∈ q.clauses, clause.IsSubstantial quoted) :
    (bool q).IsSubstantial quoted := by
  refine isSubstantial_bool_iff.mpr ⟨⟨some, ?_⟩, each⟩
  rw [free]
  rintro n ⟨⟩

theorem isSubstantial_nested_iff {path : String} {query : QueryTree} {scoreMode : ScoreMode}
    {boost : Option Double} :
    (nested path query scoreMode boost).IsSubstantial quoted ↔ query.IsSubstantial quoted := by
  constructor
  · intro all inner shown
    exact all inner (.nested shown)
  · intro below inner shown
    cases shown with
    | nested shown => exact below inner shown
    | related asks => cases asks

theorem isSubstantial_related_iff {tree query : QueryTree} (asks : tree.asked? = some query) :
    tree.IsSubstantial quoted ↔ quoted query ∨ query.IsSubstantial quoted := by
  constructor
  · intro all
    by_cases passed : quoted query
    · exact .inl passed
    · exact .inr fun inner shown => all inner (.related asks passed shown)
  · intro below inner shown
    cases shown with
    | itself => cases asks
    | clause => cases asks
    | nested => cases asks
    | related asks' unquoted shown =>
      cases asks.symm.trans asks'
      rcases below with passed | below
      · exact absurd passed unquoted
      · exact below inner shown

variable {tree : QueryTree}

/-- The more is passed over, the less has to be substantial. -/
theorem IsSubstantial.mono {quoted' : QueryTree → Prop} (h : tree.IsSubstantial quoted)
    (more : ∀ part, quoted part → quoted' part) : tree.IsSubstantial quoted' :=
  fun q shown => h q (shown.of_more more)

/-- What is built is substantial if the given parts are. -/
theorem Built.isSubstantial {given : QueryTree → Prop} (h : tree.Built given)
    (parts : ∀ part, given part → part.IsSubstantial quoted) : tree.IsSubstantial quoted := by
  induction h with
  | part known => exact parts _ known
  | leaf predicate boost => exact isSubstantial_leaf predicate boost
  | bool some free _ ih => exact isSubstantial_bool some free ih
  | nested _ _ _ _ ih => exact isSubstantial_nested_iff.mpr ih

/-- What filters is substantial in all of its parts, since there are no relationships in it. -/
theorem Filters.isSubstantial (h : tree.Filters) : tree.IsSubstantial quoted := by
  induction h with
  | geo predicate => exact isSubstantial_geo predicate
  | nested path predicate => exact isSubstantial_nested_iff.mpr (isSubstantial_geo predicate)
  | bool some free _ _ ih => exact isSubstantial_bool some free ih

end QueryTree

namespace Filter

variable {quoted : QueryTree → Prop}

theorem ofCriteria_isSubstantial {resolve : Resolver} {maxDepth depth : Nat} {criteria : Criteria}
    {filter : Option QueryTree} (h : ofCriteria resolve maxDepth depth criteria = .ok filter) :
    ∀ tree ∈ filter, tree.IsSubstantial quoted :=
  fun tree made => (ofCriteria_filters h tree made).isSubstantial

theorem host_isSubstantial {query : Option QueryTree}
    (all : ∀ tree ∈ query, tree.IsSubstantial quoted) :
    (QueryTree.bool (host query)).IsSubstantial quoted := by
  have single (tree : QueryTree) (h : tree.IsSubstantial quoted) :
      (QueryTree.bool { BoolQuery.none with must := [tree] }).IsSubstantial quoted := by
    refine QueryTree.Built.isSubstantial (.must (List.cons_ne_nil tree []) ?_ none) fun _ => id
    exact List.forall_mem_singleton.mpr (.part h)
  cases query with
  | none => exact single _ (QueryTree.isSubstantial_leaf _ _)
  | some tree =>
    have whole := all tree rfl
    cases tree with
    | bool q => exact whole
    | leaf | geo | wrapper | nested | hasChild | hasParent => exact single _ whole

/-- What a filter is attached to keeps its substance, and alternatives are asked for only where
there are some. -/
theorem attach_isSubstantial {query filter : Option QueryTree}
    (all : ∀ tree ∈ query, tree.IsSubstantial quoted)
    (all' : ∀ tree ∈ filter, tree.IsSubstantial quoted) :
    ∀ tree ∈ attach query filter, tree.IsSubstantial quoted := by
  intro tree made
  cases filter with
  | none => exact all tree made
  | some f =>
    obtain ⟨minimum, attached, asked⟩ := attach_some query f
    obtain ⟨own, below⟩ := QueryTree.isSubstantial_bool_iff.mp (host_isSubstantial all)
    rw [attached] at made
    cases made
    refine QueryTree.isSubstantial_bool_iff.mpr ⟨⟨?_, ?_⟩, ?_⟩
    · rw [BoolQuery.clauses_filter]
      exact List.concat_ne_nil f _
    · rcases asked with rfl | ⟨rfl, some⟩
      · exact own.alternatives
      · intro n one
        cases one
        exact ⟨rfl, some⟩
    · intro clause mem
      rw [BoolQuery.clauses_filter] at mem
      rcases List.mem_append.mp mem with mem | last
      · exact below clause mem
      · rw [List.mem_singleton.mp last]
        exact all' f rfl

end Filter

/-- A finished tree is embedded in criteria, at whatever level. -/
def Criteria.Quotes (criteria : Criteria) (tree : QueryTree) : Prop :=
  ∃ query, criteria.EmbedsDeep query ∧ query.native? = some tree

/-- A finished tree is embedded in the criteria that a query consists of, at whatever level. -/
def Query.Quotes (query : Query) (tree : QueryTree) : Prop :=
  ∃ criteria, query.criteria? = some criteria ∧ criteria.Quotes tree

theorem Criteria.Nests.quotes {criteria nested : Criteria} {tree : QueryTree}
    (h : criteria.Nests nested) (inside : nested.Quotes tree) : criteria.Quotes tree := by
  obtain ⟨query, deep, finished⟩ := inside
  exact ⟨query, h.deep deep, finished⟩

theorem Criteria.Embeds.quotes {criteria : Criteria} {query : Query} {tree : QueryTree}
    (h : criteria.Embeds query) (inside : query.Quotes tree) : criteria.Quotes tree := by
  obtain ⟨asked, consists, other, deep, finished⟩ := inside
  exact ⟨other, h.deep_of_criteria consists deep, finished⟩

namespace Compiler

variable {c : Compiler} {depth : Nat}

/-- What compiles is substantial but for what is quoted, which a query can be as a whole. -/
theorem hereditary_substance (c : Compiler) :
    Hereditary
      (fun query => ∀ depth result, c.queryAt depth query = .ok result → ∀ tree ∈ result,
        query.native? = some tree ∨ tree.IsSubstantial query.Quotes)
      (fun criteria => ∀ depth result, c.criteriaAt depth criteria = .ok result → ∀ tree ∈ result,
        tree.IsSubstantial criteria.Quotes) where
  step criteria nests embeds depth result h tree made := by
    cases made
    apply (criteriaAt_built h).isSubstantial
    intro part given
    cases given with
    | @related query found _ embedded compiled asks =>
      -- What is asked for is passed over if it is finished, and substantial if it was compiled.
      refine (QueryTree.isSubstantial_related_iff asks).mpr ?_
      obtain ⟨_, -, compiled⟩ := bind_eq_ok_iff.mp compiled
      cases found with
      | none => exact .inr (QueryTree.isSubstantial_leaf _ _)
      | some asked =>
        rcases embeds query embedded (depth + 1) _ compiled asked rfl with finished | below
        · exact .inl ⟨query, embedded.deep, finished⟩
        · exact .inr (below.mono fun _ => embedded.quotes)
    | nested inside compiled =>
      exact (nests _ inside 0 _ compiled part rfl).mono fun _ => inside.quotes
  criteria criteria ih depth result h tree made := by
    rw [queryAt] at h
    simp only [bind_eq_ok_iff, pure_eq_ok_iff] at h
    obtain ⟨query, compiled, filter, filtered, rfl⟩ := h
    have scoring : ∀ tree ∈ query, tree.IsSubstantial (Query.criteria criteria).Quotes :=
      fun tree present => (ih depth query compiled tree present).mono fun _ inside =>
        ⟨criteria, rfl, inside⟩
    have restricting : ∀ tree ∈ filter, tree.IsSubstantial (Query.criteria criteria).Quotes :=
      Filter.ofCriteria_isSubstantial filtered
    exact .inr (Filter.attach_isSubstantial scoring restricting tree made)
  wrapped query ih depth result h := by
    rw [queryAt] at h
    exact ih depth result h
  text source depth result h tree made := by
    rw [queryAt] at h
    cases h
    cases made
    exact .inr (QueryTree.isSubstantial_wrapper source)
  native finished depth result h tree made := by
    rw [queryAt] at h
    cases h
    exact .inl made
  template id params depth result h := by
    rw [queryAt] at h
    cases h

/-- There is no scoring tree if nothing scores on any level. -/
theorem criteriaAt_eq_none_iff {criteria : Criteria} {result : Option QueryTree}
    (h : c.criteriaAt depth criteria = .ok result) :
    result = none ↔
      ∀ level criterion, criteria.Contains level criterion → criterion.queryEntries = [] := by
  induction criteria using Criteria.induction_on_nested generalizing depth result with
  | step criteria ih =>
    obtain ⟨own, trees, fragments, nested, empty, -⟩ := criteriaAt_arranges h
    have silent : own = [] ↔ ∀ owner ∈ criteria.chain, owner.queryEntries = [] := by
      rw [← List.length_eq_zero_iff, ← fragments.length_eq, List.length_eq_zero_iff,
        List.filter_eq_nil_iff]
      refine forall₂_congr fun owner mem => ?_
      rw [contributes_iff_of_criteriaAt h owner mem, not_not]
    have below : trees.reduceOption = [] ↔ ∀ inner, criteria.Nests inner →
        ∀ level criterion, inner.Contains level criterion → criterion.queryEntries = [] := by
      simp only [Criteria.nests_iff]
      rw [List.reduceOption, List.filterMap_eq_nil_iff]
      refine forall_mem_iff_of_forall₂ nested fun inner mem tree compiled => ?_
      exact ih inner (Criteria.nests_iff.mpr mem) compiled
    rw [empty, List.append_eq_nil_iff, silent, below, Criteria.forall_contains_iff]

/-- There is nothing at all if there are no entries on any level. -/
theorem build_eq_none_iff {criteria : Criteria} {result : Option QueryTree}
    (h : c.build criteria = .ok result) :
    result = none ↔ ∀ level criterion, criteria.Contains level criterion →
      criterion.queryEntries = [] ∧ criterion.filterEntries = [] := by
  obtain ⟨query, filter, compiled, filtered, rfl⟩ := build_eq_ok_iff.mp h
  rw [Filter.attach_eq_none_iff, criteriaAt_eq_none_iff compiled,
    Filter.ofCriteria_eq_none_iff filtered]
  constructor
  · rintro ⟨scoring, filtering⟩ level criterion within
    exact ⟨scoring level criterion within, filtering level criterion within⟩
  · intro both
    exact ⟨fun level criterion within => (both level criterion within).1,
      fun level criterion within => (both level criterion within).2⟩

/-- There is a tree exactly if there is an entry that it can be made of, the scoring tree is a
boolean query, and every tree is substantial but for the finished trees that are quoted in it. -/
theorem compiled_isSubstantial (c : Compiler) (criteria : Criteria) :
    (∀ result, c.compile criteria = .ok result →
      (result = none ↔
        ∀ level criterion, criteria.Contains level criterion → criterion.queryEntries = []) ∧
      ∀ tree ∈ result, (∃ q, tree = .bool q) ∧ tree.IsSubstantial criteria.Quotes) ∧
    (∀ result, c.build criteria = .ok result →
      (result = none ↔ ∀ level criterion, criteria.Contains level criterion →
        criterion.queryEntries = [] ∧ criterion.filterEntries = []) ∧
      ∀ tree ∈ result, tree.IsSubstantial criteria.Quotes) ∧
    (∀ result, c.compileFilter criteria = .ok result →
      ∀ tree ∈ result, tree.IsSubstantial fun _ => False) ∧
    ∀ query normalize result, c.dispatch query normalize = .ok result → ∀ tree ∈ result,
      (normalize query).native? = some tree ∨ tree.IsSubstantial (normalize query).Quotes := by
  have substance := c.hereditary_substance
  refine ⟨fun result compiled => ⟨criteriaAt_eq_none_iff compiled, fun tree made => ⟨?_, ?_⟩⟩,
    fun result built => ⟨build_eq_none_iff built, fun tree made => ?_⟩,
    fun result filtered => Filter.ofCriteria_isSubstantial filtered,
    fun query normalize => substance.holds_query (normalize query) 0⟩
  · rw [Option.mem_def.mp made] at compiled
    obtain ⟨q, rfl, -⟩ := criteriaAt_isPlain compiled
    exact ⟨q, rfl⟩
  · exact substance.holds_criteria criteria 0 result compiled tree made
  · rcases substance.holds_query (.criteria criteria) 0 result built tree made with finished | below
    · cases finished
    · refine below.mono fun part inside => ?_
      obtain ⟨_, same, quotes⟩ := inside
      cases same
      exact quotes

/-- An empty group, and children that are asked for by a finished query without clauses. -/
def quotedNothing : Criteria :=
  ⟨[{ Criterion.blank with nested := [.empty] }, { Criterion.on (.named "a") with
    queryEntries := [⟨.hasChild, .hasChild "b" (.native (.bool .none)) none none⟩] }]⟩

/-- The empty group leaves no trace, and what the caller hands over is passed on as it is. -/
theorem compiled_isSubstantial_quotedNothing :
    ∃ q, standard.compile quotedNothing = .ok (some (.bool q)) ∧ q.clauses.length = 1 ∧
      (QueryTree.bool q).IsSubstantial quotedNothing.Quotes ∧
      ¬ (QueryTree.bool q).IsSubstantial fun _ => False := by
  have compiled : standard.compile quotedNothing = .ok (some (.bool _)) := rfl
  obtain ⟨-, substantial⟩ := (compiled_isSubstantial standard quotedNothing).1 _ compiled
  refine ⟨_, compiled, rfl, (substantial _ rfl).2, fun all => ?_⟩
  have shown : BoolQuery.none.IsSubstantial :=
    all _ (.clause (List.mem_singleton_self _) (.related rfl not_false (.itself _)))
  exact shown.clauses rfl

end Compiler

end SearchCriteria
