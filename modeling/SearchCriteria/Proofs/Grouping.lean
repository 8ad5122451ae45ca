import SearchCriteria.Criteria.Building
import SearchCriteria.Proofs.FilterVerdict
import SearchCriteria.Proofs.Relocation

/-!
# Groups

Criteria can be joined to a new chain as a whole, and that chain to another, again and again. Such a
row of groups around criteria says no more than the criteria, whether the groups are joined with AND
or with OR: where there is room for all of them, the result is refused with the same fault, asks for
nothing, or holds for the same documents.

In a scoring tree a group is one more boolean query, with a single clause that has to match or a
single alternative. In a filter it is nothing at all, or a single alternative. A single alternative
has to match, because the search engine asks for one where nothing else has to match.
-/

namespace SearchCriteria

/-- Two results come to the same: the same fault, nothing, or trees that hold for the same
documents. -/
inductive Equivalent : Except Fault (Option QueryTree) → Except Fault (Option QueryTree) → Prop where
  | refused (fault : Fault) : Equivalent (.error fault) (.error fault)
  | nothing : Equivalent (.ok none) (.ok none)
  | trees {tree tree' : QueryTree} (same : ∀ document, tree.holds document = tree'.holds document) :
      Equivalent (.ok (some tree)) (.ok (some tree'))

namespace Equivalent

variable {x y z : Except Fault (Option QueryTree)}

theorem refl (x : Except Fault (Option QueryTree)) : Equivalent x x := by
  rcases x with fault | _ | tree
  · exact .refused fault
  · exact .nothing
  · exact .trees fun _ => rfl

theorem trans (h : Equivalent x y) (h' : Equivalent y z) : Equivalent x z := by
  cases h with
  | refused fault => exact h'
  | nothing => exact h'
  | trees same =>
    cases h' with
    | trees same' => exact .trees fun document => (same document).trans (same' document)

/-- To put something around a tree that holds where the tree does changes nothing. -/
theorem map {around : QueryTree → QueryTree}
    (same : ∀ tree document, (around tree).holds document = tree.holds document)
    (x : Except Fault (Option QueryTree)) : Equivalent (x.map (Option.map around)) x := by
  rcases x with fault | _ | tree
  · exact .refused fault
  · exact .nothing
  · exact .trees (same tree)

theorem holds_eq {tree tree' : QueryTree} (h : Equivalent (.ok (some tree)) (.ok (some tree')))
    (document : Document) : tree.holds document = tree'.holds document := by
  cases h with
  | trees same => exact same document

end Equivalent

namespace Criteria

/-- Criteria as the only group of a new chain. -/
def group (joiner : Connective) (criteria : Criteria) : Criteria :=
  empty.extend (.joinCriteria joiner criteria)

/-- Criteria in a row of groups, the outermost first. -/
def grouped (joiners : List Connective) (criteria : Criteria) : Criteria :=
  joiners.foldr group criteria

variable {joiner : Connective} {criteria : Criteria}

theorem nests_group : (criteria.group joiner).Nests criteria :=
  ⟨_, List.mem_singleton_self _, List.mem_singleton_self criteria⟩

/-- Groups change nothing for a way to compile that makes of what fits the same at any depth, and of
a group something that holds where what is made of its inside does. -/
theorem equivalent_grouped {compile : Nat → Criteria → Except Fault (Option QueryTree)}
    {around : Connective → QueryTree → QueryTree} (fits : Nat → Criteria → Prop)
    (same : ∀ joiner tree document, (around joiner tree).holds document = tree.holds document)
    (relocate : ∀ depth criteria, fits depth criteria → compile depth criteria = compile 0 criteria)
    (step : ∀ depth joiner criteria, fits depth (criteria.group joiner) →
      fits (depth + 1) criteria ∧ compile depth (criteria.group joiner) =
        (compile (depth + 1) criteria).map (Option.map (around joiner)))
    {depth : Nat} (joiners : List Connective) {criteria : Criteria}
    (room : fits depth (criteria.grouped joiners)) :
    Equivalent (compile depth (criteria.grouped joiners)) (compile 0 criteria) := by
  -- The outermost group comes first, so what is inside of it is one level deeper than it is.
  induction joiners generalizing depth with
  | nil =>
    rw [grouped, List.foldr_nil] at room ⊢
    rw [relocate depth criteria room]
    exact .refl _
  | cons joiner joiners ih =>
    obtain ⟨inside, made⟩ := step depth joiner _ room
    rw [grouped, List.foldr_cons, made]
    exact (Equivalent.map (same joiner) _).trans (ih inside)

end Criteria

namespace Filter

variable {resolve : Resolver} {maxDepth depth : Nat}

/-- What the filter of a group is made of the filter in it. -/
def around (joiner : Connective) (filter : QueryTree) : QueryTree :=
  match joiner with
  | .and => filter
  | .or => .bool { BoolQuery.none with should := [filter] }

theorem holds_around (joiner : Connective) (filter : QueryTree) (document : Document) :
    (around joiner filter).holds document = filter.holds document := by
  cases joiner with
  | and => rfl
  | or =>
    rw [around, holds_alternatives (List.cons_ne_nil filter []), List.any_cons, List.any_nil,
      Bool.or_false]

theorem ofCriteria_group (allowed : depth ≤ maxDepth) (joiner : Connective) (criteria : Criteria) :
    ofCriteria resolve maxDepth depth (criteria.group joiner) =
      (ofCriteria resolve maxDepth (depth + 1) criteria).map (Option.map (around joiner)) := by
  rw [Criteria.group, Criteria.extend, Criteria.append, Criteria.empty, List.nil_append, ofCriteria,
    if_neg (Nat.not_lt.mpr allowed)]
  rw [ofChain, ofChain, ofNested, ofNested]
  rcases ofCriteria resolve maxDepth (depth + 1) criteria with fault | _ | filter
  · rfl
  · cases joiner <;> rfl
  · cases joiner <;> rfl

/-- Where there is room for the levels of all groups, the filter comes to what it is on its own. -/
theorem ofCriteria_grouped (joiners : List Connective) {criteria : Criteria}
    (room : (criteria.grouped joiners).levels ≤ maxDepth) :
    Equivalent (ofCriteria resolve maxDepth 0 (criteria.grouped joiners))
      (ofCriteria resolve maxDepth 0 criteria) := by
  apply Criteria.equivalent_grouped (fun depth criteria => depth + criteria.levels ≤ maxDepth)
    holds_around
  · intro depth criteria room
    exact ofCriteria_relocate room (by omega)
  · intro depth joiner criteria room
    obtain ⟨allowed, below⟩ := Criteria.depth_add_levels_le_iff.mp room
    exact ⟨below criteria Criteria.nests_group, ofCriteria_group allowed joiner criteria⟩
  · omega

end Filter

namespace Compiler

variable {c : Compiler} {depth : Nat}

/-- What the scoring tree of a group is made of the tree in it. -/
def around (joiner : Connective) (query : QueryTree) : QueryTree :=
  .bool (Fragment.bucket [{ query, joiner, negated := false }])

theorem holds_around (joiner : Connective) (query : QueryTree) (document : Document) :
    (around joiner query).holds document = query.holds document := by
  cases joiner with
  | and =>
    have must : (around .and query).holds document = [query].all (QueryTree.holds document) :=
      holds_group [query] none
    rw [must, List.all_cons, List.all_nil, Bool.and_true]
  | or => exact Filter.holds_around .or query document

theorem criteriaAt_group (allowed : depth ≤ c.settings.maxDepth) (joiner : Connective)
    (criteria : Criteria) :
    c.criteriaAt depth (criteria.group joiner) =
      (c.criteriaAt (depth + 1) criteria).map (Option.map (around joiner)) := by
  rw [Criteria.group, Criteria.extend, Criteria.append, Criteria.empty, List.nil_append, criteriaAt,
    if_neg (Nat.not_lt.mpr allowed)]
  rw [fragmentsAt, fragmentsAt, nestedAt, nestedAt, nestedListAt, nestedListAt]
  rcases c.criteriaAt (depth + 1) criteria with fault | _ | tree
  · rfl
  · rfl
  · rfl

/-- Where there is room for all groups and all that is nested in them, the scoring tree comes to
what it is on its own. -/
theorem compile_grouped (joiners : List Connective) {criteria : Criteria}
    (room : (criteria.grouped joiners).nesting ≤ c.settings.maxDepth) :
    Equivalent (c.compile (criteria.grouped joiners)) (c.compile criteria) := by
  apply Criteria.equivalent_grouped
    (fun depth criteria => depth + criteria.nesting ≤ c.settings.maxDepth) holds_around
  · intro depth criteria room
    exact criteriaAt_eq_compile room
  · intro depth joiner criteria room
    obtain ⟨allowed, -, below⟩ := Criteria.depth_add_nesting_le_iff.mp room
    exact ⟨below criteria Criteria.nests_group, criteriaAt_group allowed joiner criteria⟩
  · omega

/-- Groups are transparent. However criteria are grouped, as long as the limit on the depth admits
it, what they are compiled to comes to the same, and so does their filter. -/
theorem grouping_is_transparent (c : Compiler) (joiners : List Connective) (criteria : Criteria) :
    ((criteria.grouped joiners).nesting ≤ c.settings.maxDepth →
      Equivalent (c.compile (criteria.grouped joiners)) (c.compile criteria)) ∧
    ((criteria.grouped joiners).levels ≤ c.settings.maxDepth →
      Equivalent (c.compileFilter (criteria.grouped joiners)) (c.compileFilter criteria)) :=
  ⟨compile_grouped joiners, Filter.ofCriteria_grouped joiners⟩

/-- Alternatives in front of what is excluded, and a place that is not wanted. -/
def mixedGroup : Criteria :=
  ⟨[.present "a" .or false, .present "b" .or false, .present "c" .and true,
    { Criterion.boxed "d" with negated := true }]⟩

/-- Deep inside groups of both kinds the excluded field still makes the second alternative optional,
and the place is still not wanted. -/
theorem grouping_is_transparent_mixed :
    ∃ tree filter, standard.compile (mixedGroup.grouped [.or, .and, .or]) = .ok (some tree) ∧
      standard.compileFilter (mixedGroup.grouped [.or, .and, .or]) = .ok (some filter) ∧
      tree.holds (Document.having ["a"]) ∧ ¬ tree.holds (Document.having ["a", "c"]) ∧
      filter.holds (Document.within []) ∧ ¬ filter.holds (Document.within ["d"]) := by
  have compiled : standard.compile (mixedGroup.grouped [.or, .and, .or]) = .ok (some _) := rfl
  have filtered : standard.compileFilter (mixedGroup.grouped [.or, .and, .or]) = .ok (some _) := rfl
  have transparent := grouping_is_transparent standard [.or, .and, .or] mixedGroup
  have scoring := transparent.1 (by decide)
  have filtering := transparent.2 (by decide)
  refine ⟨_, _, compiled, filtered, ?_⟩
  rw [scoring.holds_eq, scoring.holds_eq, filtering.holds_eq, filtering.holds_eq]
  decide

end Compiler

end SearchCriteria
