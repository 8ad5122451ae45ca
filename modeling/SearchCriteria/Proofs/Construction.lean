import SearchCriteria.Proofs.Embedding
import SearchCriteria.Proofs.FilterCompilation

/-!
# How compiled trees are built

A scoring tree is built from predicates on fields, from the relationships that its entries ask for
and from the trees of what is nested in the criteria, and there are only two ways to build: boolean
queries that have clauses, and moves to nested documents. A filter is built from predicates on
places and shapes, each of which can be moved to nested documents, and from boolean queries that
have clauses and no boost.

Whatever goes from the parts to what is built of them holds of every compiled tree, and is proved by
induction on how the tree is built.
-/

namespace SearchCriteria

namespace BoolQuery

@[simp] theorem clauses_of_must (trees : List QueryTree) (boost : Option Double) :
    clauses { none with must := trees, boost } = trees := by
  simp [clauses, none]

@[simp] theorem clauses_of_should (trees : List QueryTree) :
    clauses { none with should := trees } = trees := by
  simp [clauses, none]

end BoolQuery

namespace QueryTree

/-- A relationship asks for something that is admitted. -/
def Asks (admitted : QueryTree → Prop) (tree : QueryTree) : Prop :=
  ∃ query, tree.asked? = some query ∧ admitted query

theorem Asks.withBoost {admitted : QueryTree → Prop} {tree : QueryTree} (h : tree.Asks admitted)
    (boost : Option Double) : (tree.withBoost boost).Asks admitted := by
  obtain ⟨query, asks, present⟩ := h
  exact ⟨query, (asked?_withBoost tree boost).trans asks, present⟩

/-- A tree is built from predicates on fields and from given trees. -/
inductive Built (given : QueryTree → Prop) : QueryTree → Prop where
  | part {tree : QueryTree} (h : given tree) : Built given tree
  | leaf (predicate : Leaf) (boost : Option Double) : Built given (.leaf predicate boost)
  | bool {q : BoolQuery} (some : q.clauses ≠ []) (free : q.minimumShouldMatch = none)
      (each : ∀ clause ∈ q.clauses, Built given clause) : Built given (.bool q)
  | nested (path : String) {query : QueryTree} (scoreMode : ScoreMode) (boost : Option Double)
      (below : Built given query) : Built given (.nested path query scoreMode boost)

namespace Built

variable {given given' : QueryTree → Prop} {tree : QueryTree}

theorem mono (h : tree.Built given) (more : ∀ part, given part → given' part) :
    tree.Built given' := by
  induction h with
  | part known => exact .part (more _ known)
  | leaf predicate boost => exact .leaf predicate boost
  | bool some free _ ih => exact .bool some free ih
  | nested path scoreMode boost _ ih => exact .nested path scoreMode boost ih

/-- A boost can be set on what is built if it can be set on what is given. -/
theorem withBoost (h : tree.Built given)
    (kept : ∀ part boost, given part → given (part.withBoost boost)) (boost : Option Double) :
    (tree.withBoost boost).Built given := by
  cases boost with
  | none => exact h
  | some boost =>
    cases h with
    | part known => exact .part (kept _ (some boost) known)
    | leaf predicate _ => exact .leaf predicate (some boost)
    | bool some free each => exact .bool some free each
    | nested path scoreMode _ below => exact .nested path scoreMode (some boost) below

theorem not (h : tree.Built given) : tree.not.Built given :=
  .bool (List.cons_ne_nil tree []) rfl (List.forall_mem_singleton.mpr h)

theorem must {trees : List QueryTree} (some : trees ≠ [])
    (all : ∀ tree ∈ trees, tree.Built given) (boost : Option Double) :
    (QueryTree.bool { BoolQuery.none with must := trees, boost }).Built given := by
  apply Built.bool _ rfl
  · rwa [BoolQuery.clauses_of_must]
  · rwa [BoolQuery.clauses_of_must]

end Built

/-- What carries predicates is built from what they are built from. -/
theorem Carries.built {given : QueryTree → Prop} {boost : Option Double} {tree : QueryTree}
    {leaves : List QueryTree} (h : tree.Carries boost leaves) (some : leaves ≠ [])
    (kept : ∀ part boost, given part → given (part.withBoost boost))
    (all : ∀ leaf ∈ leaves, leaf.Built given) : tree.Built given := by
  induction h with
  | single leaf => exact (all leaf (List.mem_singleton_self leaf)).withBoost kept boost
  | several _ => exact .must some all boost
  | moved path scoreMode _ ih => exact .nested path scoreMode none (ih some all)
  | turned _ ih => exact (ih some all).not

/-- A tree is built from predicates on places and shapes, and none of it scores. -/
inductive Filters : QueryTree → Prop where
  | geo (predicate : GeoPredicate) : Filters (.geo predicate)
  | nested (path : String) (predicate : GeoPredicate) :
      Filters (.nested path (.geo predicate) .none none)
  | bool {q : BoolQuery} (some : q.clauses ≠ []) (free : q.minimumShouldMatch = none)
      (unboosted : q.boost = none) (each : ∀ clause ∈ q.clauses, Filters clause) :
      Filters (.bool q)

namespace Filters

variable {tree : QueryTree} {trees : List QueryTree}

theorem not (h : tree.Filters) : tree.not.Filters :=
  .bool (List.cons_ne_nil tree []) rfl rfl (List.forall_mem_singleton.mpr h)

theorem must (some : trees ≠ []) (all : ∀ tree ∈ trees, tree.Filters) :
    (QueryTree.bool { BoolQuery.none with must := trees }).Filters := by
  apply Filters.bool _ rfl rfl
  · rwa [BoolQuery.clauses_of_must]
  · rwa [BoolQuery.clauses_of_must]

theorem should (some : trees ≠ []) (all : ∀ tree ∈ trees, tree.Filters) :
    (QueryTree.bool { BoolQuery.none with should := trees }).Filters := by
  apply Filters.bool _ rfl rfl
  · rwa [BoolQuery.clauses_of_should]
  · rwa [BoolQuery.clauses_of_should]

end Filters

end QueryTree

namespace Clause

variable {given admitted : QueryTree → Prop} {settings : Settings} {op : Operator} {tree : QueryTree}

theorem presence_built {field : String} (h : presence field op = .ok tree) : tree.Built given := by
  unfold presence at h
  split at h <;> cases h
  · exact .leaf _ _
  · refine .bool (List.cons_ne_nil _ _) rfl ?_
    intro clause mem
    rcases List.mem_pair.mp mem with rfl | rfl
    · exact .leaf _ _
    · exact .leaf _ _
  · exact .leaf _ _

theorem exactMembership_built {field : String} {values : List (Option String)}
    (h : exactMembership field values op = .ok tree) : tree.Built given := by
  unfold exactMembership at h
  have terms : (QueryTree.leaf (.terms field values) none).Built given := .leaf _ _
  split at h <;> cases h
  · exact .must (List.cons_ne_nil _ []) (List.forall_mem_singleton.mpr terms) none
  · exact terms.not

theorem textMembership_built {field : String} {values : List String}
    (h : textMembership field values op = .ok tree) : tree.Built given := by
  unfold textMembership at h
  split at h
  · cases h
  · split at h <;> cases h
    · exact .leaf _ _
    · exact .leaf _ _

theorem membership_built {field : ResolvedField} {operand : Operand}
    (h : membership field op operand = .ok tree) : tree.Built given := by
  unfold membership at h
  split at h
  · cases h
  · obtain ⟨values, -, h⟩ := bind_eq_ok_iff.mp h
    split at h
    · exact exactMembership_built h
    · exact textMembership_built h

/-- An entry without an embedded query is built from predicates on its field alone. -/
theorem buildAs_built {family : ClauseFamily} {field : ResolvedField} {entry : Entry}
    {embedded : Except Fault (Option QueryTree)} (plain : entry.operand.embedded? = none)
    (h : buildAs family settings field entry embedded = .ok tree) : tree.Built given := by
  cases family with
  | presence => exact presence_built h
  | text =>
    rw [buildAs, text] at h
    split at h
    · obtain ⟨predicate, -, rfl⟩ := map_eq_ok_iff.mp h
      exact .leaf predicate none
    · cases h
  | range =>
    obtain ⟨bounds, -, rfl⟩ := map_eq_ok_iff.mp h
    exact .leaf _ _
  | membership => exact membership_built h
  | relationship =>
    rw [buildAs, relationship.eq_def] at h
    split at h
    · next same => simp [same, Operand.embedded?] at plain
    · next same => simp [same, Operand.embedded?] at plain
    · cases h

/-- Where there is an embedded query, an entry is a relationship that asks for it. -/
theorem build_built {field : ResolvedField} {entry : Entry}
    {compile : Query → Except Fault (Option QueryTree)}
    (h : build settings field entry (entry.operand.compileEmbedded compile) = .ok tree)
    (inside : ∀ query, entry.operand.embedded? = some query → ∀ found, compile query = .ok found →
      admitted (found.getD .matchAll)) :
    tree.Built (QueryTree.Asks admitted) := by
  cases embedded : entry.operand.embedded? with
  | some query =>
    rw [build_compileEmbedded embedded, bind_eq_ok_iff] at h
    obtain ⟨_, -, h⟩ := h
    obtain ⟨found, compiled, rfl⟩ := map_eq_ok_iff.mp h
    have asks := asked?_relate settings embedded found none
    exact .part ⟨_, asks, inside query embedded found compiled⟩
  | none =>
    obtain ⟨_, -, h⟩ := bind_eq_ok_iff.mp h
    split at h
    · exact buildAs_built embedded h
    · cases h

end Clause

namespace Filter

variable {resolve : Resolver} {maxDepth depth : Nat} {trees : List QueryTree}

theorem place_filters (field : ResolvedField) (predicate : GeoPredicate) :
    (place field predicate).Filters := by
  unfold place
  split
  · exact .nested _ predicate
  · exact .geo predicate

/-- A property of trees that goes from the pieces of a filter to what is made of them. -/
structure Composes (P : QueryTree → Prop) : Prop where
  not : ∀ tree, P tree → P tree.not
  must : ∀ trees, trees ≠ [] → (∀ tree ∈ trees, P tree) →
    P (.bool { BoolQuery.none with must := trees })
  should : ∀ trees, trees ≠ [] → (∀ tree ∈ trees, P tree) →
    P (.bool { BoolQuery.none with should := trees })

namespace Composes

variable {P : QueryTree → Prop}

/-- A group of alternatives is not made of nothing, and what is excluded is excluded one by one. -/
theorem items (h : Composes P) (joiner : Connective) (negated : Bool)
    (all : ∀ tree ∈ trees, P tree) : ∀ item ∈ items joiner negated trees, P item := by
  intro item mem
  unfold Filter.items at mem
  split at mem
  · split at mem
    case isTrue => cases mem
    case isFalse some =>
      rw [List.mem_singleton.mp mem]
      exact h.should trees (mt List.isEmpty_iff.mpr some) all
  · split at mem
    · obtain ⟨tree, inside, rfl⟩ := List.mem_map.mp mem
      exact h.not tree (all tree inside)
    · exact all item mem

theorem together (h : Composes P) (all : ∀ tree ∈ trees, P tree) :
    ∀ tree ∈ together trees, P tree := by
  intro tree made
  unfold Filter.together at made
  split at made <;> cases made
  · exact all tree (List.mem_singleton_self tree)
  · next some _ => exact h.must trees some all

/-- What holds of the predicates of all filtering entries, on whatever level, holds of the filter. -/
theorem ofCriteria (h : Composes P) {criteria : Criteria} {filter : Option QueryTree}
    (compiled : ofCriteria resolve maxDepth depth criteria = .ok filter)
    (each : ∀ level criterion, criteria.Contains level criterion → ∀ field entry predicate,
      entry ∈ criterion.filterEntries →
      GeoFilter.build (resolve field).name entry = .ok predicate →
      P (place (resolve field) predicate)) : ∀ tree ∈ filter, P tree := by
  induction criteria using Criteria.induction_on_nested generalizing depth filter with
  | step criteria ih =>
    obtain ⟨-, pieces, found, rfl⟩ := ofCriteria_eq_ok_iff.mp compiled
    apply h.together
    intro item mem
    obtain ⟨⟨owner, own⟩, paired, mem⟩ := List.mem_flatMap.mp mem
    have there : owner ∈ criteria.chain := (List.of_mem_zip paired).1
    obtain ⟨chosen, below, built, compiled, rfl⟩ := List.forall₂_zip found paired
    refine h.items owner.joiner owner.negated ?_ item mem
    intro tree inside
    rcases List.mem_append.mp inside with inside | inside
    · obtain ⟨entry, listed, field, -, predicate, built, encloses⟩ :=
        exists_mem_of_forall₂ built.flip inside
      rw [← encloses_iff_place_eq.mp encloses]
      exact each 0 owner (.inChain there) field entry predicate listed built
    · have listed := List.reduceOption_mem_iff.mp inside
      obtain ⟨nested, mem, compiled⟩ := exists_mem_of_forall₂ compiled.flip listed
      have nests : criteria.Nests nested := ⟨owner, there, mem⟩
      exact ih nested nests compiled
        (fun level criterion within => each (level + 1) criterion (.inNested nests within)) tree rfl

end Composes

/-- The filter of criteria filters in all of its parts. -/
theorem ofCriteria_filters {criteria : Criteria} {filter : Option QueryTree}
    (h : ofCriteria resolve maxDepth depth criteria = .ok filter) :
    ∀ tree ∈ filter, tree.Filters :=
  Composes.ofCriteria ⟨fun _ => .not, fun _ => .must, fun _ => .should⟩ h
    fun _ _ _ field _ predicate _ _ => place_filters (resolve field) predicate

end Filter

namespace Compiler

variable {c : Compiler} {depth : Nat}

/-- A fragment is built from predicates on its field and from relationships that ask for what the
embedded queries are compiled to. -/
theorem built_of_isFragmentOf {admitted : QueryTree → Prop} {criterion : Criterion}
    {tree : QueryTree} (h : c.IsFragmentOf depth criterion tree)
    (contributes : criterion.contributes)
    (inside : ∀ entry ∈ criterion.queryEntries, ∀ query, entry.operand.embedded? = some query →
      ∀ found, c.subQueryAt (depth + 1) query = .ok found → admitted (found.getD .matchAll)) :
    tree.Built (QueryTree.Asks admitted) := by
  obtain ⟨field, leaves, named, built, -, carries⟩ := h
  refine carries.built ?_ (fun _ boost asks => asks.withBoost boost) fun leaf mem => ?_
  · rintro rfl
    have empty := List.forall₂_nil_right_iff.mp built
    simp [Criterion.contributes, empty] at contributes
  · obtain ⟨entry, there, made⟩ := exists_mem_of_forall₂ built.flip mem
    exact Clause.build_built made (inside entry there)

/-- What the scoring tree of criteria is built from besides predicates: relationships that ask for
what an embedded query is compiled to, and the trees of nested criteria. -/
inductive Part (c : Compiler) (depth : Nat) (criteria : Criteria) : QueryTree → Prop where
  | related {query : Query} {found : Option QueryTree} {tree : QueryTree}
      (embeds : criteria.Embeds query) (compiled : c.subQueryAt (depth + 1) query = .ok found)
      (asks : tree.asked? = some (found.getD .matchAll)) : Part c depth criteria tree
  | nested {nested : Criteria} {tree : QueryTree} (nests : criteria.Nests nested)
      (compiled : c.compile nested = .ok (some tree)) : Part c depth criteria tree

theorem criteriaAt_built {criteria : Criteria} {tree : QueryTree}
    (h : c.criteriaAt depth criteria = .ok (some tree)) :
    tree.Built (c.Part depth criteria) := by
  obtain ⟨own, trees, fragments, nested, empty, made⟩ := criteriaAt_arranges h
  obtain ⟨q, rfl, arranged⟩ := made tree rfl
  have clauses : q.clauses.Perm (own ++ trees.reduceOption) := by
    rw [BoolQuery.clauses, arranged.filter, List.append_nil]
    exact arranged.once
  refine .bool ?_ arranged.minimum fun part mem => ?_
  · intro none
    rw [none] at clauses
    exact Option.some_ne_none _ (empty.mpr clauses.nil_eq.symm)
  rcases List.mem_append.mp (clauses.mem_iff.mp mem) with mem | mem
  · obtain ⟨owner, there, isFragment⟩ := exists_mem_of_forall₂ fragments.flip mem
    obtain ⟨there, contributes⟩ := List.mem_filter.mp there
    have built : part.Built (QueryTree.Asks fun asked => ∃ query found, criteria.Embeds query ∧
        c.subQueryAt (depth + 1) query = .ok found ∧ asked = found.getD .matchAll) :=
      built_of_isFragmentOf isFragment contributes
        fun entry listed query embedded found compiled =>
          ⟨query, found, ⟨owner, there, entry, listed, embedded⟩, compiled, rfl⟩
    refine built.mono ?_
    rintro relation ⟨_, asks, query, found, embeds, compiled, rfl⟩
    exact .related embeds compiled asks
  · have listed := List.reduceOption_mem_iff.mp mem
    obtain ⟨inner, there, compiled⟩ := exists_mem_of_forall₂ nested.flip listed
    exact .part (.nested (Criteria.nests_iff.mpr there) compiled)

end Compiler

end SearchCriteria
