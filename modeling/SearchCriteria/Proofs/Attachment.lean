import SearchCriteria.Proofs.Compilation
import SearchCriteria.Proofs.Joining

/-!
# Scoring trees beside a filter

A filter that is attached to a scoring tree restricts what the tree holds for, with one exception.
The search engine asks for an alternative only if there is neither a clause that has to match nor a
filter, so the tree has to ask for one itself once it has a filter. It does if there is nothing but
alternatives in it. Beside clauses that must not match it does not, and then the tree holds for
documents that match none of its alternatives.

Where there is no scoring tree, the filter is attached to a query that matches everything, and so
everything depends on that being true of the document.
-/

namespace SearchCriteria

namespace Compiler

variable {c : Compiler} {depth : Nat} {criteria : Criteria}

/-- The scoring tree of criteria is the boolean query of their fragments. -/
theorem criteriaAt_isPlain {tree : QueryTree} (h : c.criteriaAt depth criteria = .ok (some tree)) :
    ∃ q : BoolQuery, tree = .bool q ∧ q.IsPlain := by
  obtain ⟨-, own, nested, -, -, join⟩ := criteriaAt_eq_ok_iff.mp h
  rw [Fragment.join_eq_joined] at join
  split at join
  · cases join
  · exact ⟨_, (Option.some_inj.mp join).symm, Fragment.joined_isPlain own nested⟩

theorem build_eq_ok_iff {result : Option QueryTree} :
    c.build criteria = .ok result ↔ ∃ query filter, c.compile criteria = .ok query ∧
      c.compileFilter criteria = .ok filter ∧ Filter.attach query filter = result := by
  rw [build, queryAt]
  simp only [bind_eq_ok_iff, pure_eq_ok_iff, exists_and_left]
  rfl

end Compiler

namespace Filter

variable {document : Document} {q : BoolQuery} {query filter : Option QueryTree} {f : QueryTree}

theorem attach_eq_none_iff : attach query filter = none ↔ query = none ∧ filter = none := by
  cases filter with
  | none => simp [attach]
  | some f => simp [attach]

/-- The boolean query that a filter is attached to. -/
def host : Option QueryTree → BoolQuery
  | some (.bool query) => query
  | some query => { BoolQuery.none with must := [query] }
  | none => { BoolQuery.none with must := [.matchAll] }

/-- A filter that is attached is one more clause. Nothing else changes, but that an alternative can
be asked for if there are some. -/
theorem attach_some (query : Option QueryTree) (f : QueryTree) :
    ∃ minimum, attach query (some f) = some (.bool { host query with
        filter := (host query).filter ++ [f], minimumShouldMatch := minimum }) ∧
      (minimum = (host query).minimumShouldMatch ∨
        minimum = some 1 ∧ (host query).should ≠ []) := by
  have attached : attach query (some f) = some (.bool
      (let base := if (host query).must.isEmpty && (host query).mustNot.isEmpty &&
          !(host query).should.isEmpty then { host query with minimumShouldMatch := some 1 }
        else host query
      { base with filter := base.filter ++ [f] })) := by
    cases query with
    | none => rfl
    | some tree => cases tree <;> rfl
  rw [attached]
  split
  case isTrue lone =>
    refine ⟨some 1, rfl, .inr ⟨rfl, ?_⟩⟩
    simp only [Bool.and_eq_true, Bool.not_eq_true', List.isEmpty_eq_false_iff] at lone
    exact lone.2
  case isFalse => exact ⟨(host query).minimumShouldMatch, rfl, .inl rfl⟩

/-- Beside a filter one of the alternatives has to match only if there is nothing else. -/
theorem attach_holds_iff (plain : q.IsPlain) :
    (attach (some (.bool q)) (some f)).all (QueryTree.holds document) ↔
      (∀ t ∈ q.must, t.holds document) ∧ (∀ t ∈ q.mustNot, t.holds document = false) ∧
        f.holds document ∧ (q.OnlyAlternatives → ∃ t ∈ q.should, t.holds document) := by
  obtain ⟨must, should, mustNot, others, minimum, boost⟩ := q
  obtain ⟨rfl, rfl⟩ := plain
  rw [attach, Option.all_some, QueryTree.holds_bool, BoolQuery.holds_iff]
  split
  case isTrue lone =>
    simp only [Bool.and_eq_true, Bool.not_eq_true', List.isEmpty_iff, List.isEmpty_eq_false_iff]
      at lone
    obtain ⟨⟨rfl, rfl⟩, some⟩ := lone
    simp [BoolQuery.OnlyAlternatives, BoolQuery.neededAlternatives, some, Nat.succ_le_iff]
  case isFalse mixed =>
    have beside : ¬ (must = [] ∧ mustNot = [] ∧ should ≠ []) := by
      simpa [and_assoc] using mixed
    simp [BoolQuery.OnlyAlternatives, BoolQuery.neededAlternatives, beside, and_comm]

/-- The tree holds for a document with the filter attached, although the document matches none of
the alternatives, of which one had to match. -/
def LosesAlternatives (document : Document) (query filter : Option QueryTree) : Prop :=
  ∃ q f, query = some (.bool q) ∧ filter = some f ∧
    q.must = [] ∧ q.should ≠ [] ∧ q.mustNot ≠ [] ∧
    (∀ t ∈ q.should, t.holds document = false) ∧ (∀ t ∈ q.mustNot, t.holds document = false) ∧
    f.holds document

/-- A filter stands alone, and the document, which matches it, does not match everything. -/
def LacksMatchAll (document : Document) (query filter : Option QueryTree) : Prop :=
  query = none ∧ (∃ f, filter = some f ∧ f.holds document) ∧ document .matchAll = false

theorem attach_bool_restricts_iff (document : Document) (plain : q.IsPlain) :
    ((attach (some (.bool q)) (some f)).all (QueryTree.holds document) ↔
        q.holds document ∧ f.holds document) ↔
      ¬ LosesAlternatives document (some (.bool q)) (some f) := by
  rw [attach_holds_iff plain, plain.holds_iff]
  constructor
  · rintro restricts ⟨_, _, same, same', must, should, mustNot, alternative, excluded, accepted⟩
    cases same
    cases same'
    obtain ⟨⟨-, -, needed⟩, -⟩ := restricts.mp
      ⟨by simp [must], excluded, accepted, fun lone => absurd lone.2.1 mustNot⟩
    obtain ⟨t, ht, holds⟩ := needed ⟨must, should⟩
    rw [alternative t ht] at holds
    cases holds
  · intro kept
    constructor
    · rintro ⟨required, excluded, accepted, lone⟩
      refine ⟨⟨required, excluded, fun ⟨must, should⟩ => ?_⟩, accepted⟩
      by_cases found : ∃ t ∈ q.should, t.holds document
      · exact found
      · by_cases mustNot : q.mustNot = []
        · exact lone ⟨must, mustNot, should⟩
        · have missing : ∀ t ∈ q.should, t.holds document = false := fun t ht =>
            Bool.eq_false_iff.mpr fun holds => found ⟨t, ht, holds⟩
          exact absurd ⟨q, f, rfl, rfl, must, should, mustNot, missing, excluded, accepted⟩ kept
    · rintro ⟨⟨required, excluded, needed⟩, accepted⟩
      exact ⟨required, excluded, accepted, fun lone => needed ⟨lone.1, lone.2.2⟩⟩

theorem attach_none_restricts_iff (document : Document) :
    ((attach none (some f)).all (QueryTree.holds document) ↔ f.holds document) ↔
      ¬ LacksMatchAll document none (some f) := by
  have everything : QueryTree.matchAll.holds document = document .matchAll := by
    rw [QueryTree.matchAll, QueryTree.holds]
    exact fun _ h => by cases h
  rw [attach, Option.all_some, QueryTree.holds_bool, BoolQuery.holds_iff]
  simp [BoolQuery.none, BoolQuery.neededAlternatives, LacksMatchAll, everything]

end Filter

namespace Compiler

variable {c : Compiler} {criteria : Criteria}

/-- Attaching the filter restricts the scoring tree for exactly the documents that are none of the
exceptions. -/
theorem build_restricts_iff {result : Option QueryTree} (h : c.build criteria = .ok result) :
    ∃ query filter, c.compile criteria = .ok query ∧ c.compileFilter criteria = .ok filter ∧
      (result = none ↔ query = none ∧ filter = none) ∧
      ∀ document : Document,
        ((result.all (QueryTree.holds document) ↔
            query.all (QueryTree.holds document) ∧ filter.all (QueryTree.holds document)) ↔
          ¬ Filter.LosesAlternatives document query filter ∧
            ¬ Filter.LacksMatchAll document query filter) := by
  obtain ⟨query, filter, compiled, compiled', rfl⟩ := build_eq_ok_iff.mp h
  refine ⟨query, filter, compiled, compiled', Filter.attach_eq_none_iff, fun document => ?_⟩
  cases filter with
  | none =>
    have kept : ¬ Filter.LosesAlternatives document query none := by
      rintro ⟨_, _, _, same, _⟩
      cases same
    have kept' : ¬ Filter.LacksMatchAll document query none := by
      rintro ⟨_, ⟨_, same, _⟩, _⟩
      cases same
    simp [Filter.attach, kept, kept']
  | some f =>
    cases query with
    | none =>
      have kept : ¬ Filter.LosesAlternatives document none (some f) := by
        rintro ⟨_, _, same, _⟩
        cases same
      simpa [kept] using Filter.attach_none_restricts_iff document
    | some tree =>
      obtain ⟨q, rfl, plain⟩ := criteriaAt_isPlain compiled
      have kept : ¬ Filter.LacksMatchAll document (some (.bool q)) (some f) := by
        rintro ⟨same, _⟩
        cases same
      simpa [kept] using Filter.attach_bool_restricts_iff document plain

/-- Two fields are excluded, a third is the only alternative, and the place has to be in a box. -/
def excludedInBox : Criteria :=
  let corner : GeoPoint := ⟨.zero false, .zero false⟩
  let boxed := { Criterion.on (.named "place") with
    filterEntries := [⟨.boundingBox, .geoBox ⟨corner, corner⟩⟩] }
  ⟨[.present "a" .and true, .present "b" .and true, .present "c" .or false, boxed]⟩

/-- A document of which only the place is known. -/
def placed : Document
  | .geo _ => true
  | _ => false

/-- What has a place and none of the fields is found, although it does not match the alternative. -/
theorem build_restricts_iff_excluded :
    ∃ result query filter, standard.build excludedInBox = .ok result ∧
      standard.compile excludedInBox = .ok query ∧
      standard.compileFilter excludedInBox = .ok filter ∧
      ¬ (result.all (QueryTree.holds placed) ↔
          query.all (QueryTree.holds placed) ∧ filter.all (QueryTree.holds placed)) := by
  have built : standard.build excludedInBox = .ok (some _) := rfl
  obtain ⟨query, filter, compiled, compiled', -, restricts⟩ := build_restricts_iff built
  have tree : some _ = query := Except.ok.inj (Eq.trans rfl compiled)
  have box : some _ = filter := Except.ok.inj (Eq.trans rfl compiled')
  have lost : Filter.LosesAlternatives placed query filter :=
    ⟨_, _, tree.symm, box.symm, rfl, List.cons_ne_nil _ _, List.cons_ne_nil _ _, by decide,
      by decide, rfl⟩
  exact ⟨_, query, filter, built, compiled, compiled',
    fun restricted => ((restricts placed).mp restricted).1 lost⟩

end Compiler

end SearchCriteria
