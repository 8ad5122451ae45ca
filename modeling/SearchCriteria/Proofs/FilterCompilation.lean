import SearchCriteria.Proofs.Compilation
import SearchCriteria.Proofs.Nesting

/-!
# What a filter is made of

The filter of criteria is compiled by recursion through the criteria nested in them. Here each step of
that recursion is taken apart once: a criterion has pieces, which are its own predicates and behind
them the filters of what is nested in it, the pieces of all criteria of a chain become items, and the
items have to match together.
-/

namespace SearchCriteria.Filter

variable {resolve : Resolver} {maxDepth depth : Nat}

/-- A tree is the predicate of a filtering entry: the entry is built into a predicate on the resolved
field, and this alone is moved to where the field lives. -/
def IsPredicateOf (resolve : Resolver) (field : Option Field) (entry : Entry) (tree : QueryTree) :
    Prop :=
  ∃ f ∈ field, ∃ predicate, GeoFilter.build (resolve f).name entry = .ok predicate ∧
    (resolve f).Encloses .none (.geo predicate) tree

/-- What a criterion has for the filter of its chain: the predicates of its filtering entries, and
then the filters of the criteria nested in it that have one. -/
def HasPieces (resolve : Resolver) (maxDepth depth : Nat) (criterion : Criterion)
    (pieces : List QueryTree) : Prop :=
  ∃ own below, List.Forall₂ (IsPredicateOf resolve criterion.field) criterion.filterEntries own ∧
    List.Forall₂ (fun criteria filter => ofCriteria resolve maxDepth (depth + 1) criteria = .ok filter)
      criterion.nested below ∧
    pieces = own ++ below.reduceOption

/-- What the criteria of a chain add to its filter, for the pieces that each of them has. -/
def itemsOf (chain : List Criterion) (pieces : List (List QueryTree)) : List QueryTree :=
  (chain.zip pieces).flatMap fun x => items x.1.joiner x.1.negated x.2

theorem encloses_iff_place_eq {field : ResolvedField} {predicate : GeoPredicate} {tree : QueryTree} :
    field.Encloses .none (.geo predicate) tree ↔ place field predicate = tree := by
  constructor
  · intro h
    cases h with
    | unmoved flat => simp only [place, flat]
    | moved below => simp only [place, below]
  · rintro rfl
    unfold place
    split
    case h_1 path below => exact .moved below
    case h_2 flat => exact .unmoved flat

theorem isPredicateOf_some_iff {f : Field} {entry : Entry} {tree : QueryTree} :
    IsPredicateOf resolve (some f) entry tree ↔ ∃ predicate,
      GeoFilter.build (resolve f).name entry = .ok predicate ∧ place (resolve f) predicate = tree := by
  simp [IsPredicateOf, encloses_iff_place_eq]

/-- The predicates of a criterion that filter are those of its entries, one by one. -/
theorem predicates_eq_ok_iff {field : Option Field} {entries : List Entry} {own : List QueryTree} :
    predicates resolve field entries = .ok own ↔
      List.Forall₂ (IsPredicateOf resolve field) entries own := by
  cases entries with
  | nil => cases field <;> simp [predicates, eq_comm]
  | cons entry rest =>
    cases field with
    | none => simp [predicates, IsPredicateOf, List.forall₂_cons_left_iff]
    | some f =>
      simp only [predicates, mapM_eq_ok_iff, map_eq_ok_iff]
      constructor
      · exact fun built => built.imp fun _ _ => isPredicateOf_some_iff.mpr
      · exact fun built => built.imp fun _ _ => isPredicateOf_some_iff.mp

/-- There is one predicate for each entry. -/
theorem predicates_eq_nil_iff {field : Option Field} {entries : List Entry} {own : List QueryTree}
    (h : List.Forall₂ (IsPredicateOf resolve field) entries own) : own = [] ↔ entries = [] := by
  rw [← List.length_eq_zero_iff, ← h.length_eq, List.length_eq_zero_iff]

theorem ofNested_eq_ok_iff {list : List Criteria} {found : List QueryTree} :
    ofNested resolve maxDepth depth list = .ok found ↔
      ∃ below, List.Forall₂
          (fun criteria filter => ofCriteria resolve maxDepth (depth + 1) criteria = .ok filter)
          list below ∧ below.reduceOption = found := by
  refine reduceOption_eq_ok_iff (by rw [ofNested]) fun criteria rest results => ?_
  rw [ofNested]
  exact bind_append_eq_ok_iff

theorem ofChain_cons_eq_ok_iff {criterion : Criterion} {rest : List Criterion}
    {found : List QueryTree} :
    ofChain resolve maxDepth depth (criterion :: rest) = .ok found ↔
      ∃ pieces others, HasPieces resolve maxDepth depth criterion pieces ∧
        ofChain resolve maxDepth depth rest = .ok others ∧
        items criterion.joiner criterion.negated pieces ++ others = found := by
  obtain ⟨field, joiner, negated, queryEntries, filterEntries, boost, nested⟩ := criterion
  rw [ofChain]
  simp only [bind_eq_ok_iff, pure_eq_ok_iff, predicates_eq_ok_iff, ofNested_eq_ok_iff, HasPieces]
  constructor
  · rintro ⟨own, first, _, ⟨below, second, rfl⟩, others, third, rfl⟩
    exact ⟨_, others, ⟨own, below, first, second, rfl⟩, third, rfl⟩
  · rintro ⟨_, others, ⟨own, below, first, second, rfl⟩, third, rfl⟩
    exact ⟨own, first, _, ⟨below, second, rfl⟩, others, third, rfl⟩

theorem ofChain_eq_ok_iff {chain : List Criterion} {found : List QueryTree} :
    ofChain resolve maxDepth depth chain = .ok found ↔
      ∃ pieces, List.Forall₂ (HasPieces resolve maxDepth depth) chain pieces ∧
        itemsOf chain pieces = found := by
  induction chain generalizing found with
  | nil => simp [ofChain, itemsOf, eq_comm]
  | cons criterion rest ih =>
    simp only [ofChain_cons_eq_ok_iff, ih, List.forall₂_cons_left_iff]
    constructor
    · rintro ⟨own, _, first, ⟨others, second, rfl⟩, rfl⟩
      exact ⟨_, ⟨own, others, first, second, rfl⟩, rfl⟩
    · rintro ⟨_, ⟨own, others, first, second, rfl⟩, rfl⟩
      exact ⟨own, _, first, ⟨others, second, rfl⟩, rfl⟩

/-- Criteria that are not too deep have a filter if all of their criteria have their pieces. -/
theorem ofCriteria_eq_ok_iff {criteria : Criteria} {filter : Option QueryTree} :
    ofCriteria resolve maxDepth depth criteria = .ok filter ↔
      depth ≤ maxDepth ∧ ∃ pieces,
        List.Forall₂ (HasPieces resolve maxDepth depth) criteria.chain pieces ∧
        together (itemsOf criteria.chain pieces) = filter := by
  obtain ⟨chain⟩ := criteria
  rw [ofCriteria]
  split
  case isTrue deep =>
    simp only [reduceCtorEq, false_iff, not_and]
    intro allowed
    omega
  case isFalse allowed =>
    simp only [map_eq_ok_iff, ofChain_eq_ok_iff, Nat.not_lt.mp allowed, true_and]
    constructor
    · rintro ⟨_, ⟨pieces, found, rfl⟩, rfl⟩
      exact ⟨pieces, found, rfl⟩
    · rintro ⟨pieces, found, rfl⟩
      exact ⟨_, ⟨pieces, found, rfl⟩, rfl⟩

theorem items_eq_nil_iff {joiner : Connective} {negated : Bool} {pieces : List QueryTree} :
    items joiner negated pieces = [] ↔ pieces = [] := by
  cases joiner <;> cases negated <;> cases pieces <;> simp [items]

theorem itemsOf_eq_nil_iff {chain : List Criterion} {pieces : List (List QueryTree)}
    (h : chain.length = pieces.length) : itemsOf chain pieces = [] ↔ ∀ own ∈ pieces, own = [] := by
  have second : (chain.zip pieces).map Prod.snd = pieces :=
    List.map_snd_zip (Nat.le_of_eq h.symm)
  calc itemsOf chain pieces = []
      ↔ ∀ x ∈ chain.zip pieces, x.2 = [] := by simp only [itemsOf, List.flatMap_eq_nil_iff,
        items_eq_nil_iff]
    _ ↔ ∀ own ∈ (chain.zip pieces).map Prod.snd, own = [] := by rw [List.forall_mem_map]
    _ ↔ ∀ own ∈ pieces, own = [] := by rw [second]

theorem together_eq_of_several {found : List QueryTree} (several : 1 < found.length) :
    together found = some (.bool { BoolQuery.none with must := found }) := by
  cases found with
  | nil => cases several
  | cons item rest =>
    cases rest with
    | nil => exact absurd several (Nat.lt_irrefl 1)
    | cons second others => rfl

theorem together_eq_none_iff {found : List QueryTree} : together found = none ↔ found = [] := by
  cases found with
  | nil => simp [together]
  | cons item rest => cases rest <;> simp [together]

end SearchCriteria.Filter
