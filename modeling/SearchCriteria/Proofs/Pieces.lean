import Mathlib.Data.List.Perm.Basic
import SearchCriteria.Proofs.Groups

/-!
# What compiled trees are opened to

Every criterion with scoring entries comes to one piece of the scoring tree: its predicates as a
group, moved to nested documents or not. Every filtering entry comes to one piece of the filter. A
scoring tree is opened to the pieces of all criteria, and a filter to the pieces of all filtering
entries, of a chain and of all that is nested in it, each once.
-/

namespace SearchCriteria

namespace Criteria

mutual

/-- The criteria of a chain, each followed by all criteria that are nested in it. -/
def flatten : Criteria → List Criterion
  | ⟨chain⟩ => flattenChain chain

def flattenChain : List Criterion → List Criterion
  | [] => []
  | ⟨field, joiner, negated, queryEntries, filterEntries, boost, nested⟩ :: rest =>
    ⟨field, joiner, negated, queryEntries, filterEntries, boost, nested⟩
      :: (flattenNested nested ++ flattenChain rest)

def flattenNested : List Criteria → List Criterion
  | [] => []
  | criteria :: rest => criteria.flatten ++ flattenNested rest

end

theorem flattenNested_eq_flatMap (list : List Criteria) :
    flattenNested list = list.flatMap flatten := by
  induction list with
  | nil => rw [flattenNested, List.flatMap_nil]
  | cons criteria rest ih => rw [flattenNested, ih, List.flatMap_cons]

theorem flatten_eq (criteria : Criteria) :
    criteria.flatten =
      criteria.chain.flatMap fun owner => owner :: owner.nested.flatMap flatten := by
  obtain ⟨chain⟩ := criteria
  rw [flatten]
  induction chain with
  | nil => rw [flattenChain, List.flatMap_nil]
  | cons owner rest ih =>
    obtain ⟨field, joiner, negated, queryEntries, filterEntries, boost, nested⟩ := owner
    rw [flattenChain, ih, flattenNested_eq_flatMap, List.flatMap_cons, List.cons_append]

/-- The criteria that have a field and scoring entries, at all levels of nested criteria. -/
def scoring (criteria : Criteria) : List Criterion :=
  criteria.flatten.filter Criterion.contributes

/-- The filtering entries at all levels of nested criteria, each with its criterion. -/
def filtering (criteria : Criteria) : List (Criterion × Entry) :=
  criteria.flatten.flatMap fun criterion => criterion.filterEntries.map (criterion, ·)

/-- Those of the chain itself and those of what is nested in it. -/
theorem scoring_perm (criteria : Criteria) :
    criteria.scoring.Perm (criteria.chain.filter Criterion.contributes ++
      (criteria.chain.flatMap Criterion.nested).flatMap scoring) := by
  have own : criteria.chain.filter Criterion.contributes =
      criteria.chain.flatMap fun owner => [owner].filter Criterion.contributes := by
    rw [← List.filter_flatMap, List.flatMap_singleton']
  have split : criteria.scoring = criteria.chain.flatMap fun owner =>
      [owner].filter Criterion.contributes ++ owner.nested.flatMap scoring := by
    rw [scoring, flatten_eq, List.filter_flatMap]
    apply List.flatMap_congr
    intro owner _
    rw [← List.singleton_append, List.filter_append, List.filter_flatMap]
    rfl
  rw [own, split, List.flatMap_assoc]
  exact (List.flatMap_append_perm ..).symm

theorem filtering_eq (criteria : Criteria) :
    criteria.filtering = criteria.chain.flatMap fun owner =>
      owner.filterEntries.map (owner, ·) ++ owner.nested.flatMap filtering := by
  rw [filtering, flatten_eq, List.flatMap_assoc]
  apply List.flatMap_congr
  intro owner _
  rw [List.flatMap_cons, List.flatMap_assoc]
  rfl

end Criteria

namespace QueryTree

/-! ## One piece for each source -/

/-- Trees are opened to one piece for each source, which is a piece of that source. -/
def OpensTo {α π : Type} (isOf : α → π → Prop) (tree : π → QueryTree) (sources : List α)
    (trees : List QueryTree) : Prop :=
  ∃ pieces, List.Forall₂ isOf sources pieces ∧ Opens trees (pieces.map tree)

namespace OpensTo

variable {α β γ π : Type} {isOf : α → π → Prop} {tree : π → QueryTree} {sources sources' : List α}
  {trees trees' : List QueryTree}

theorem nil : OpensTo isOf tree [] [] :=
  ⟨[], .nil, .done .nil⟩

theorem append (first : OpensTo isOf tree sources trees)
    (second : OpensTo isOf tree sources' trees') :
    OpensTo isOf tree (sources ++ sources') (trees ++ trees') := by
  obtain ⟨pieces, own, opens⟩ := first
  obtain ⟨pieces', own', opens'⟩ := second
  refine ⟨pieces ++ pieces', List.rel_append own own', ?_⟩
  rw [List.map_append]
  exact opens.append opens'

/-- Trees that are opened to other trees are opened to the pieces of these. -/
theorem of_opens (opens : Opens trees trees') (h : OpensTo isOf tree sources trees') :
    OpensTo isOf tree sources trees := by
  obtain ⟨pieces, own, later⟩ := h
  exact ⟨pieces, own, opens.trans later⟩

/-- The order of the sources does not matter. -/
theorem perm (same : sources'.Perm sources) (h : OpensTo isOf tree sources trees) :
    OpensTo isOf tree sources' trees := by
  obtain ⟨pieces, own, opens⟩ := h
  obtain ⟨pieces', own', reordered⟩ := List.perm_comp_forall₂ same own
  exact ⟨pieces', own', opens.trans (.done (reordered.symm.map tree))⟩

/-- Results that are opened one by one are opened in a row. -/
theorem flatMap {built : β → γ → Prop} {items : List β} {results : List γ} {own : β → List α}
    {toTrees : γ → List QueryTree} (compiled : List.Forall₂ built items results)
    (each : ∀ item ∈ items, ∀ result, built item result →
      OpensTo isOf tree (own item) (toTrees result)) :
    OpensTo isOf tree (items.flatMap own) (results.flatMap toTrees) := by
  induction compiled with
  | nil => exact nil
  | @cons item result rest others made _ ih =>
    rw [List.flatMap_cons, List.flatMap_cons]
    apply append
    · exact each item List.mem_cons_self result made
    · exact ih fun item mem => each item (List.mem_cons_of_mem _ mem)

end OpensTo

theorem flatMap_toList (trees : List (Option QueryTree)) :
    trees.flatMap Option.toList = trees.reduceOption := by
  rw [List.reduceOption, List.filterMap_eq_flatMap_toList]
  rfl

end QueryTree

namespace Compiler

variable {c : Compiler}

/-! ## Pieces of scoring trees -/

/-- What the scoring entries of a criterion come to: the predicates on its field, the group that
they make, and the tree of this group. -/
structure Piece where
  field : Field
  leaves : List QueryTree
  group : QueryTree
  tree : QueryTree

/-- A criterion comes to a piece: each entry is built into one predicate, these are the group that
has the boost of the criterion, and the group as a whole is moved to where the field lives. -/
structure Piece.IsOf (c : Compiler) (criterion : Criterion) (piece : Piece) : Prop where
  named : criterion.field = some piece.field
  built : List.Forall₂ (fun entry leaf => Clause.build c.settings (c.resolve piece.field) entry
    (entry.operand.compileEmbedded (c.subQueryAt 1)) = .ok leaf) criterion.queryEntries piece.leaves
  grouped : QueryTree.IsGroup criterion.boost piece.leaves piece.group
  enclosed : (c.resolve piece.field).Encloses c.settings.nestedScoreMode piece.group piece.tree

theorem Piece.IsOf.simple {criterion : Criterion} {piece : Piece} (h : piece.IsOf c criterion) :
    ∀ leaf ∈ piece.leaves, leaf.Simple := by
  intro leaf mem
  obtain ⟨entry, -, built⟩ := exists_mem_of_forall₂ h.built.flip mem
  exact Clause.build_simple built

/-- A group has the boost of its criterion, at its root, and nothing in it is moved. -/
theorem Piece.IsOf.flat {criterion : Criterion} {piece : Piece} (h : piece.IsOf c criterion) :
    piece.group.Flat criterion.boost :=
  h.grouped.flat h.simple

theorem wrap_encloses (settings : Settings) (field : ResolvedField) (boost : Option Double)
    (leaves : List QueryTree) :
    ∃ group, QueryTree.IsGroup boost leaves group ∧
      field.Encloses settings.nestedScoreMode group (wrap settings field boost leaves) := by
  unfold wrap
  dsimp only
  split
  case' h_1 path below => refine ⟨_, ?_, .moved below⟩
  case' h_2 flat => refine ⟨_, ?_, .unmoved flat⟩
  -- What is left, moved or not, is the group.
  all_goals
    split
    case h_1 leaf => exact .single leaf
    case h_2 many =>
      refine .several fun one => ?_
      obtain ⟨leaf, rfl⟩ := List.length_eq_one_iff.mp one
      exact many leaf rfl

/-- The fragment of a criterion is opened to its piece. Only a negated alternative has something to
open. -/
theorem opensTo_of_isFragmentOf {criterion : Criterion} {tree : QueryTree}
    (h : c.IsFragmentOf 0 criterion tree) :
    QueryTree.OpensTo (Piece.IsOf c) Piece.tree [criterion] [tree] := by
  obtain ⟨field, leaves, named, built, rfl, -⟩ := h
  obtain ⟨group, grouped, enclosed⟩ :=
    wrap_encloses c.settings (c.resolve field) criterion.boost leaves
  refine ⟨[⟨field, leaves, group, _⟩], .cons ⟨named, built, grouped, enclosed⟩ .nil, ?_⟩
  unfold fragment
  dsimp only
  split
  · exact .not _
  · exact .done (.refl _)

/-- The boolean queries that scoring trees are made of have no boost. -/
theorem boost_of_compile {criteria : Criteria} {q : BoolQuery}
    (h : c.compile criteria = .ok (some (.bool q))) : q.boost = none := by
  obtain ⟨-, own, nested, -, -, join⟩ := criteriaAt_eq_ok_iff.mp h
  rw [Fragment.join_eq_joined] at join
  split at join
  · cases join
  · cases join
    cases own with
    | nil => rfl
    | cons first rest =>
      rw [Fragment.joined, Fragment.attachFirst]
      split
      · rfl
      · split <;> rfl

/-- A scoring tree is opened to one piece for each criterion that has scoring entries, at all levels
of nested criteria. -/
theorem compile_opensTo {criteria : Criteria} {result : Option QueryTree}
    (h : c.compile criteria = .ok result) :
    QueryTree.OpensTo (Piece.IsOf c) Piece.tree criteria.scoring result.toList := by
  induction criteria using Criteria.induction_on_nested generalizing result with
  | step criteria ih =>
    obtain ⟨own, trees, fragments, nested, empty, made⟩ := criteriaAt_arranges h
    -- The tree holds the fragments of the chain and the trees of what is nested in it.
    have chain : QueryTree.OpensTo (Piece.IsOf c) Piece.tree
        (criteria.chain.filter Criterion.contributes) own := by
      rw [← List.flatMap_singleton' own, ← List.flatMap_singleton' (criteria.chain.filter _)]
      exact .flatMap fragments fun _ _ _ => opensTo_of_isFragmentOf
    have below : QueryTree.OpensTo (Piece.IsOf c) Piece.tree
        ((criteria.chain.flatMap Criterion.nested).flatMap Criteria.scoring)
        trees.reduceOption := by
      rw [← QueryTree.flatMap_toList]
      apply QueryTree.OpensTo.flatMap nested
      intro inner mem tree compiled
      exact ih inner (Criteria.nests_iff.mpr mem) compiled
    apply QueryTree.OpensTo.perm criteria.scoring_perm
    apply QueryTree.OpensTo.of_opens _ (chain.append below)
    cases result with
    | none =>
      rw [empty.mp rfl]
      exact .done .nil
    | some tree =>
      obtain ⟨q, rfl, arranged⟩ := made tree rfl
      apply QueryTree.Opens.bool (boost_of_compile h)
      rw [BoolQuery.clauses, arranged.filter, List.append_nil]
      exact .done arranged.once

end Compiler

namespace Filter

variable {resolve : Resolver} {maxDepth depth : Nat}

/-! ## Pieces of filters -/

/-- What a filtering entry comes to: a predicate on its field, and the tree of this predicate. -/
structure Piece where
  field : Field
  predicate : GeoPredicate
  tree : QueryTree

/-- A filtering entry of a criterion comes to a piece: it is built into one predicate, and this
alone is moved to where the field lives. -/
structure Piece.IsOf (resolve : Resolver) (source : Criterion × Entry) (piece : Piece) : Prop where
  named : source.1.field = some piece.field
  built : GeoFilter.build (resolve piece.field).name source.2 = .ok piece.predicate
  enclosed : (resolve piece.field).Encloses .none (.geo piece.predicate) piece.tree

/-- The predicates of a criterion are pieces as they are. -/
theorem opensTo_of_predicates {owner : Criterion} {own : List QueryTree}
    (h : List.Forall₂ (IsPredicateOf resolve owner.field) owner.filterEntries own) :
    QueryTree.OpensTo (Piece.IsOf resolve) Piece.tree (owner.filterEntries.map (owner, ·)) own := by
  rw [← List.flatMap_singleton' own, List.map_eq_flatMap]
  apply QueryTree.OpensTo.flatMap h
  rintro entry - tree ⟨field, named, predicate, built, encloses⟩
  exact ⟨[⟨field, predicate, tree⟩], .cons ⟨named, built, encloses⟩ .nil, .done (.refl _)⟩

/-- What a criterion adds is opened to what it is made of. -/
theorem items_opens (joiner : Connective) (negated : Bool) (pieces : List QueryTree) :
    QueryTree.Opens (items joiner negated pieces) pieces := by
  cases joiner with
  | or =>
    rw [items]
    split
    case isTrue empty =>
      rw [List.isEmpty_iff.mp empty]
      exact .done .nil
    case isFalse =>
      apply QueryTree.Opens.bool rfl
      rw [BoolQuery.clauses_of_should]
      exact .done (.refl _)
  | and =>
    rw [items]
    split
    case isTrue =>
      induction pieces with
      | nil => exact .done .nil
      | cons piece rest ih => exact (QueryTree.Opens.not piece).append ih
    case isFalse => exact .done (.refl _)

theorem together_opens (found : List QueryTree) :
    QueryTree.Opens (together found).toList found := by
  unfold together
  split
  · exact .done .nil
  · exact .done (.refl _)
  · apply QueryTree.Opens.bool rfl
    rw [BoolQuery.clauses_of_must]
    exact .done (.refl _)

/-- What the criteria of a chain add is opened criterion by criterion. -/
theorem opensTo_itemsOf {chain : List Criterion} {pieces : List (List QueryTree)}
    {sources : Criterion → List (Criterion × Entry)}
    (found : List.Forall₂ (HasPieces resolve maxDepth depth) chain pieces)
    (each : ∀ owner ∈ chain, ∀ own, HasPieces resolve maxDepth depth owner own →
      QueryTree.OpensTo (Piece.IsOf resolve) Piece.tree (sources owner) own) :
    QueryTree.OpensTo (Piece.IsOf resolve) Piece.tree (chain.flatMap sources)
      (itemsOf chain pieces) := by
  induction found with
  | nil => exact .nil
  | @cons owner own rest others first _ ih =>
    apply QueryTree.OpensTo.append
    · exact .of_opens (items_opens ..) (each owner List.mem_cons_self own first)
    · exact ih fun owner mem => each owner (List.mem_cons_of_mem _ mem)

/-- A filter is opened to one piece for each filtering entry, at all levels of nested criteria. -/
theorem ofCriteria_opensTo {criteria : Criteria} {filter : Option QueryTree}
    (h : ofCriteria resolve maxDepth depth criteria = .ok filter) :
    QueryTree.OpensTo (Piece.IsOf resolve) Piece.tree criteria.filtering filter.toList := by
  induction criteria using Criteria.induction_on_nested generalizing depth filter with
  | step criteria ih =>
    obtain ⟨-, pieces, found, rfl⟩ := ofCriteria_eq_ok_iff.mp h
    have each : ∀ owner ∈ criteria.chain, ∀ own, HasPieces resolve maxDepth depth owner own →
        QueryTree.OpensTo (Piece.IsOf resolve) Piece.tree
          (owner.filterEntries.map (owner, ·) ++ owner.nested.flatMap Criteria.filtering) own := by
      rintro owner mem _ ⟨own, below, built, compiled, rfl⟩
      apply (opensTo_of_predicates built).append
      rw [← QueryTree.flatMap_toList]
      apply QueryTree.OpensTo.flatMap compiled
      intro nested mem' filter compiled
      exact ih nested ⟨owner, mem, mem'⟩ compiled
    rw [Criteria.filtering_eq]
    exact .of_opens (together_opens _) (opensTo_itemsOf found each)

end Filter

end SearchCriteria
