import SearchCriteria.Proofs.Attachment
import SearchCriteria.Proofs.Relocation

/-!
# Where the parts of criteria go

The boolean query of criteria is made in two passes over the chain, one for the fragments of its
criteria and one for what is nested in them, and the first fragment is put in place last. Nothing is
lost, doubled or put out of order by that: each part stands once in one of three clauses, and in
each clause the fragments of the chain stand before the trees of what is nested in it, both in their
order. A fragment in turn has one predicate for each scoring entry of its criterion.
-/

namespace SearchCriteria

namespace BoolQuery

/-- Each of some trees stands once in one of three clauses, and each clause keeps their order. -/
structure Sorts (q : BoolQuery) (trees : List QueryTree) : Prop where
  once : (q.must ++ q.should ++ q.mustNot).Perm trees
  must : q.must.Sublist trees
  should : q.should.Sublist trees
  mustNot : q.mustNot.Sublist trees

namespace Sorts

variable {q : BoolQuery} {trees : List QueryTree}

theorem none : BoolQuery.none.Sorts [] :=
  ⟨.refl [], .refl [], .refl [], .refl []⟩

theorem cons_must (h : q.Sorts trees) (tree : QueryTree) :
    { q with must := tree :: q.must }.Sorts (tree :: trees) where
  once := h.once.cons tree
  must := h.must.cons_cons tree
  should := h.should.cons tree
  mustNot := h.mustNot.cons tree

theorem cons_should (h : q.Sorts trees) (tree : QueryTree) :
    { q with should := tree :: q.should }.Sorts (tree :: trees) where
  once := by
    rw [List.append_assoc, List.cons_append]
    apply List.perm_middle.trans
    rw [← List.append_assoc]
    exact h.once.cons tree
  must := h.must.cons tree
  should := h.should.cons_cons tree
  mustNot := h.mustNot.cons tree

theorem cons_mustNot (h : q.Sorts trees) (tree : QueryTree) :
    { q with mustNot := tree :: q.mustNot }.Sorts (tree :: trees) where
  once := List.perm_middle.trans (h.once.cons tree)
  must := h.must.cons tree
  should := h.should.cons tree
  mustNot := h.mustNot.cons_cons tree

end Sorts

/-- The clauses of two boolean queries, one behind the other. -/
def append (front back : BoolQuery) : BoolQuery :=
  { none with
    must := front.must ++ back.must
    should := front.should ++ back.should
    mustNot := front.mustNot ++ back.mustNot }

/-- A boolean query holds nothing but trees of two groups, each once and in order, and those of the
first group before those of the second. -/
structure Arranges (q : BoolQuery) (own nested : List QueryTree) : Prop where
  groups : ∃ front back : BoolQuery, q = front.append back ∧ front.Sorts own ∧ back.Sorts nested
  once : (q.must ++ q.should ++ q.mustNot).Perm (own ++ nested)
  filter : q.filter = []
  minimum : q.minimumShouldMatch = .none

theorem append_interchange {α : Type} (a b c d : List α) :
    ((a ++ b) ++ (c ++ d)).Perm ((a ++ c) ++ (b ++ d)) := by
  rw [List.append_assoc, List.append_assoc]
  exact (List.perm_append_comm_assoc b c d).append_left a

theorem Arranges.append {front back : BoolQuery} {own nested : List QueryTree}
    (first : front.Sorts own) (second : back.Sorts nested) :
    (front.append back).Arranges own nested where
  groups := ⟨front, back, rfl, first, second⟩
  once := by
    have clauses : ((front.must ++ back.must) ++ (front.should ++ back.should) ++
          (front.mustNot ++ back.mustNot)).Perm
        ((front.must ++ front.should ++ front.mustNot) ++
          (back.must ++ back.should ++ back.mustNot)) :=
      ((append_interchange ..).append_right _).trans (append_interchange ..)
    exact clauses.trans (first.once.append second.once)
  filter := rfl
  minimum := rfl

end BoolQuery

namespace Fragment

theorem bucket_sorts (fragments : List Fragment) :
    (bucket fragments).Sorts (fragments.map query) := by
  induction fragments with
  | nil => exact .none
  | cons f rest ih =>
    obtain ⟨query, joiner, negated⟩ := f
    cases joiner with
    | or => exact ih.cons_should query
    | and =>
      cases negated with
      | true => exact ih.cons_mustNot query
      | false => exact ih.cons_must query

/-- The first fragment stands in front of the clause that it is put in. -/
theorem attachFirst_append (first : Fragment) (rest back : List Fragment) :
    ∃ front : BoolQuery, first.attachFirst (bucket (rest ++ back)) = front.append (bucket back) ∧
      front.Sorts ((first :: rest).map query) := by
  have behind := bucket_sorts rest
  unfold attachFirst
  split
  · refine ⟨_, ?_, behind.cons_should first.query⟩
    simp [BoolQuery.append, bucket, BoolQuery.none]
  · split
    · refine ⟨_, ?_, behind.cons_mustNot first.query⟩
      simp [BoolQuery.append, bucket, BoolQuery.none]
    · refine ⟨_, ?_, behind.cons_must first.query⟩
      simp [BoolQuery.append, bucket, BoolQuery.none]

/-- Fragments are arranged as they come, those of the chain before those of what is nested in it. -/
theorem joined_arranges (own nested : List Fragment) :
    (joined own nested).Arranges (own.map query) (nested.map query) := by
  cases own with
  | nil => exact .append .none (bucket_sorts nested)
  | cons first rest =>
    obtain ⟨front, same, sorted⟩ := attachFirst_append first rest nested
    rw [joined, same]
    exact .append sorted (bucket_sorts nested)

end Fragment

/-- What is nested in the criteria of a chain, each with its owner, in the order of the owners and
then of their own. -/
def Criteria.ownedOfChain (chain : List Criterion) : List (Criterion × Criteria) :=
  chain.flatMap fun owner => owner.nested.map (owner, ·)

theorem Criteria.ownedOfChain_cons (owner : Criterion) (rest : List Criterion) :
    ownedOfChain (owner :: rest) = owner.nested.map (owner, ·) ++ ownedOfChain rest :=
  List.flatMap_cons

def Criteria.owned (criteria : Criteria) : List (Criterion × Criteria) :=
  ownedOfChain criteria.chain

namespace Fragment

/-- The fragment that nested criteria have in the chain of their owner, if they have a tree. -/
def ofOwned (owned : Criterion × Criteria) (tree : Option QueryTree) : Option Fragment :=
  tree.map fun query => ⟨query, owned.1.joiner, owned.1.negated⟩

@[simp] theorem map_query_ofOwned (owned : Criterion × Criteria) (tree : Option QueryTree) :
    (ofOwned owned tree).map query = tree := by
  cases tree <;> rfl

/-- The fragments of what is nested in a chain, for the trees that it has. -/
def ofNested (owned : List (Criterion × Criteria)) (trees : List (Option QueryTree)) :
    List Fragment :=
  (owned.zip trees).filterMap fun x => ofOwned x.1 x.2

theorem ofNested_append {owned more : List (Criterion × Criteria)}
    {trees others : List (Option QueryTree)} (same : owned.length = trees.length) :
    ofNested (owned ++ more) (trees ++ others) = ofNested owned trees ++ ofNested more others := by
  rw [ofNested, List.zip_append same, List.filterMap_append, ofNested, ofNested]

/-- All that is nested in one criterion is joined in the same way. -/
theorem ofNested_of_owner (owner : Criterion) {list : List Criteria}
    {trees : List (Option QueryTree)} (same : list.length = trees.length) :
    ofNested (list.map (owner, ·)) trees =
      trees.reduceOption.map fun query => ⟨query, owner.joiner, owner.negated⟩ := by
  have second : (list.zip trees).map Prod.snd = trees := List.map_snd_zip (Nat.le_of_eq same.symm)
  calc ofNested (list.map (owner, ·)) trees
      = (list.zip trees).filterMap fun x =>
          x.2.map fun query => ⟨query, owner.joiner, owner.negated⟩ := by
        rw [ofNested, List.zip_map_left, List.filterMap_map]
        rfl
    _ = ((list.zip trees).map Prod.snd).reduceOption.map
          fun query => ⟨query, owner.joiner, owner.negated⟩ := by
        rw [List.reduceOption, List.filterMap_map, List.map_filterMap]
        rfl
    _ = trees.reduceOption.map fun query => ⟨query, owner.joiner, owner.negated⟩ := by rw [second]

theorem map_query_ofNested {owned : List (Criterion × Criteria)} {trees : List (Option QueryTree)}
    (same : owned.length = trees.length) :
    (ofNested owned trees).map query = trees.reduceOption := by
  have second : (owned.zip trees).map Prod.snd = trees := List.map_snd_zip (Nat.le_of_eq same.symm)
  calc (ofNested owned trees).map query
      = ((owned.zip trees).map Prod.snd).reduceOption := by
        rw [ofNested, List.map_filterMap, List.reduceOption, List.filterMap_map]
        simp only [map_query_ofOwned, Function.id_comp]
    _ = trees.reduceOption := by rw [second]

end Fragment

/-- A tree is made of predicates: one stands for itself, several have to match together, and all of
them may be moved to nested documents and turned round. -/
inductive QueryTree.Carries (boost : Option Double) : QueryTree → List QueryTree → Prop where
  | single (leaf : QueryTree) : Carries boost (leaf.withBoost boost) [leaf]
  | several {leaves : List QueryTree} (several : leaves.length ≠ 1) :
      Carries boost (.bool { BoolQuery.none with must := leaves, boost }) leaves
  | moved {tree : QueryTree} {leaves : List QueryTree} (path : String) (scoreMode : ScoreMode)
      (carries : Carries boost tree leaves) :
      Carries boost (.nested path tree scoreMode none) leaves
  | turned {tree : QueryTree} {leaves : List QueryTree} (carries : Carries boost tree leaves) :
      Carries boost tree.not leaves

namespace Compiler

variable {c : Compiler} {depth : Nat}

theorem wrap_carries (settings : Settings) (field : ResolvedField) (boost : Option Double)
    (leaves : List QueryTree) : (wrap settings field boost leaves).Carries boost leaves := by
  unfold wrap
  dsimp only
  split
  case' h_1 path _ => apply QueryTree.Carries.moved
  -- What is left, moved or not, is the group.
  all_goals
    split
    case h_1 leaf => exact .single leaf
    case h_2 many =>
      refine .several fun one => ?_
      obtain ⟨leaf, rfl⟩ := List.length_eq_one_iff.mp one
      exact many leaf rfl

theorem fragment_carries (settings : Settings) (field : ResolvedField) (joiner : Connective)
    (negated : Bool) (boost : Option Double) (leaves : List QueryTree) :
    (fragment settings field joiner negated boost leaves).query.Carries boost leaves := by
  have wrapped := wrap_carries settings field boost leaves
  unfold fragment
  cases joiner == Connective.or && negated with
  | false => exact wrapped
  | true => exact wrapped.turned

/-- The fragment of a criterion on a field, which has one predicate for each of the scoring entries,
in their order. -/
def IsFragmentOf (c : Compiler) (depth : Nat) (criterion : Criterion) (tree : QueryTree) : Prop :=
  ∃ field leaves, criterion.field = some field ∧
    List.Forall₂ (fun entry leaf => Clause.build c.settings (c.resolve field) entry
      (entry.operand.compileEmbedded (c.subQueryAt (depth + 1))) = .ok leaf)
      criterion.queryEntries leaves ∧
    tree = (fragment c.settings (c.resolve field) criterion.joiner criterion.negated criterion.boost
      leaves).query ∧
    tree.Carries criterion.boost leaves

theorem fragmentsAt_eq_ok_iff {chain : List Criterion} {own : List Fragment} :
    c.fragmentsAt depth chain = .ok own ↔
      ∃ parts, List.Forall₂ (fun criterion part => c.fragmentAt depth criterion = .ok part) chain
        parts ∧ parts.reduceOption = own :=
  reduceOption_eq_ok_iff (by rw [fragmentsAt]) fun _ _ _ => fragmentsAt_cons_eq_ok_iff

theorem nestedListAt_eq_ok_iff {list : List Criteria} {queries : List QueryTree} :
    c.nestedListAt depth list = .ok queries ↔
      ∃ found, List.Forall₂ (fun criteria tree => c.criteriaAt (depth + 1) criteria = .ok tree) list
        found ∧ found.reduceOption = queries :=
  reduceOption_eq_ok_iff (by rw [nestedListAt]) fun _ _ _ => nestedListAt_cons_eq_ok_iff

/-- The fragment of a criterion that compiles is its own. -/
theorem isFragmentOf_of_fragmentAt {criterion : Criterion} {own : Option Fragment}
    (h : c.fragmentAt depth criterion = .ok own) :
    ∀ f ∈ own, c.IsFragmentOf depth criterion f.query := by
  rcases fragmentAt_cases h with ⟨-, rfl⟩ | ⟨-, field, leaves, named, built, rfl⟩
  · exact nofun
  · rintro _ ⟨⟩
    exact ⟨field, leaves, named, leavesAt_eq_ok_iff.mp built, rfl, fragment_carries ..⟩

/-- Where all criteria of a chain compile, exactly those that contribute have a fragment. -/
theorem isFragmentOf_of_parts {chain : List Criterion} {parts : List (Option Fragment)}
    (h : List.Forall₂ (fun criterion part => c.fragmentAt depth criterion = .ok part) chain parts) :
    List.Forall₂ (fun criterion f => c.IsFragmentOf depth criterion f.query)
      (chain.filter Criterion.contributes) parts.reduceOption := by
  induction h with
  | nil => exact .nil
  | cons compiled _ ih =>
    have itself := isFragmentOf_of_fragmentAt compiled
    rcases fragmentAt_cases compiled with ⟨silent, rfl⟩ | ⟨contributes, _, _, _, _, rfl⟩
    · rw [List.filter_cons_of_neg (by simp [silent]), List.reduceOption_cons_of_none]
      exact ih
    · rw [List.filter_cons_of_pos contributes, List.reduceOption_cons_of_some]
      exact .cons (itself _ rfl) ih

/-- A criterion that compiles without a fragment of its own has no scoring entries. -/
theorem contributes_iff_of_fragmentAt {criterion : Criterion} {own : Option Fragment}
    (h : c.fragmentAt depth criterion = .ok own) :
    criterion.contributes ↔ criterion.queryEntries ≠ [] := by
  obtain ⟨field, joiner, negated, queryEntries, filterEntries, boost, nested⟩ := criterion
  cases field with
  | some field => simp [Criterion.contributes]
  | none =>
    rw [fragmentAt] at h
    split at h
    · next empty => simp [Criterion.contributes, (List.append_eq_nil_iff.mp empty).1]
    · cases h

/-- What is nested in a chain has the fragments of the trees that it compiles to, joined as the
owners are. -/
theorem owned_of_nestedAt {chain : List Criterion} {nested : List Fragment}
    (h : c.nestedAt depth chain = .ok nested) :
    ∃ trees, List.Forall₂ (fun (owned : Criterion × Criteria) tree =>
          c.criteriaAt (depth + 1) owned.2 = .ok tree) (Criteria.ownedOfChain chain) trees ∧
      nested = Fragment.ofNested (Criteria.ownedOfChain chain) trees := by
  induction chain generalizing nested with
  | nil =>
    rw [nestedAt] at h
    cases h
    exact ⟨[], .nil, rfl⟩
  | cons owner rest ih =>
    obtain ⟨_, _, first, second, rfl⟩ := nestedAt_cons_eq_ok_iff.mp h
    obtain ⟨_, listed, rfl⟩ := map_eq_ok_iff.mp first
    obtain ⟨trees, compiled, rfl⟩ := nestedListAt_eq_ok_iff.mp listed
    obtain ⟨others, below, rfl⟩ := ih second
    have owned : List.Forall₂ (fun (owned : Criterion × Criteria) tree =>
        c.criteriaAt (depth + 1) owned.2 = .ok tree) (owner.nested.map (owner, ·)) trees :=
      List.forall₂_map_left_iff.mpr compiled
    refine ⟨trees ++ others, List.rel_append owned below, ?_⟩
    rw [Criteria.ownedOfChain_cons, Fragment.ofNested_append owned.length_eq,
      Fragment.ofNested_of_owner owner compiled.length_eq]

/-- Each criterion that contributes has one fragment, and all criteria nested in the chain have the
trees that they have on their own. The scoring tree is made of these. -/
theorem parts_of_criteriaAt {criteria : Criteria} {result : Option QueryTree}
    (h : c.criteriaAt depth criteria = .ok result) :
    ∃ own trees, c.fragmentsAt depth criteria.chain = .ok own ∧
      List.Forall₂ (fun criterion f => c.IsFragmentOf depth criterion f.query)
        (criteria.chain.filter Criterion.contributes) own ∧
      List.Forall₂ (fun (owned : Criterion × Criteria) tree => c.compile owned.2 = .ok tree)
        criteria.owned trees ∧
      Fragment.join own (Fragment.ofNested criteria.owned trees) = result := by
  obtain ⟨-, _, _, compiled, below, rfl⟩ := criteriaAt_eq_ok_iff.mp h
  obtain ⟨parts, fragments, rfl⟩ := fragmentsAt_eq_ok_iff.mp compiled
  obtain ⟨trees, owned, rfl⟩ := owned_of_nestedAt below
  exact ⟨parts.reduceOption, trees, compiled, isFragmentOf_of_parts fragments,
    owned.imp fun _ _ => compile_of_criteriaAt, rfl⟩

theorem contributes_iff_of_criteriaAt {criteria : Criteria} {result : Option QueryTree}
    (h : c.criteriaAt depth criteria = .ok result) :
    ∀ owner ∈ criteria.chain, owner.contributes ↔ owner.queryEntries ≠ [] := by
  intro owner mem
  obtain ⟨-, _, _, compiled, -, -⟩ := criteriaAt_eq_ok_iff.mp h
  obtain ⟨parts, fragments, -⟩ := fragmentsAt_eq_ok_iff.mp compiled
  obtain ⟨part, -, compiled⟩ := exists_mem_of_forall₂ fragments mem
  exact contributes_iff_of_fragmentAt compiled

/-- The scoring tree of criteria is a boolean query that arranges their fragments, which are those
of the criteria that contribute, and the trees of what is nested. Without any of these there is
none. -/
theorem criteriaAt_arranges {criteria : Criteria} {result : Option QueryTree}
    (h : c.criteriaAt depth criteria = .ok result) :
    ∃ own trees,
      List.Forall₂ (c.IsFragmentOf depth) (criteria.chain.filter Criterion.contributes) own ∧
      List.Forall₂ (fun nested tree => c.compile nested = .ok tree)
        (criteria.chain.flatMap Criterion.nested) trees ∧
      (result = none ↔ own ++ trees.reduceOption = []) ∧
      ∀ tree ∈ result, ∃ q : BoolQuery, tree = .bool q ∧ q.Arranges own trees.reduceOption := by
  obtain ⟨own, trees, -, fragments, owned, rfl⟩ := parts_of_criteriaAt h
  have same := owned.length_eq
  have arranged := Fragment.joined_arranges own (Fragment.ofNested criteria.owned trees)
  have empty : own ++ Fragment.ofNested criteria.owned trees = [] ↔
      own.map Fragment.query ++ trees.reduceOption = [] := by
    rw [← Fragment.map_query_ofNested same, ← List.map_append, List.map_eq_nil_iff]
  rw [Fragment.map_query_ofNested same] at arranged
  rw [Fragment.join_eq_joined]
  refine ⟨own.map Fragment.query, trees, List.forall₂_map_right_iff.mpr fragments, ?_, ?_⟩
  · have second : criteria.owned.map Prod.snd = criteria.chain.flatMap Criterion.nested := by
      simp [Criteria.owned, Criteria.ownedOfChain, List.map_flatMap, Function.comp_def]
    rw [← second]
    exact List.forall₂_map_left_iff.mpr owned
  · split
    case isTrue none =>
      exact ⟨iff_of_true rfl (empty.mp none), fun _ h => by cases h⟩
    case isFalse some =>
      refine ⟨iff_of_false (Option.some_ne_none _) (mt empty.mpr some), ?_⟩
      intro tree made
      cases made
      exact ⟨_, rfl, arranged⟩

end Compiler

end SearchCriteria
