import SearchCriteria.Proofs.Attachment
import SearchCriteria.Proofs.FilterCompilation

/-!
# Which criteria are accepted

Criteria compile if and only if nothing in them is malformed: entries stand only where there is a
field for them, each entry is accepted by what builds its predicate, and the criteria are not nested
too deep. No place is exempt from this, however many levels down, and nothing else is refused. The
scoring tree needs the scoring entries to be accepted and the filter the filtering ones; both need a
field for the entries they look at.

What a query embedded in an operand compiles to is given to what builds the predicate, and so the
question whether the query is accepted is left to that.
-/

namespace SearchCriteria

namespace Compiler

variable {c : Compiler} {depth : Nat} {criteria : Criteria} {criterion : Criterion}

/-- Each scoring entry of a criterion is accepted on the resolved field, with the queries that are
embedded in operands compiled one level deeper. -/
def AcceptsQueryEntries (c : Compiler) (depth : Nat) (criterion : Criterion) : Prop :=
  ∀ field ∈ criterion.field, ∀ entry ∈ criterion.queryEntries, ∃ leaf,
    Clause.build c.settings (c.resolve field) entry
      (entry.operand.compileEmbedded (c.subQueryAt (depth + 1))) = .ok leaf

/-- Each filtering entry of a criterion is accepted under the name of the resolved field. -/
def AcceptsFilterEntries (c : Compiler) (criterion : Criterion) : Prop :=
  ∀ field ∈ criterion.field, ∀ entry ∈ criterion.filterEntries, ∃ predicate,
    GeoFilter.build (c.resolve field).name entry = .ok predicate

theorem leavesAt_accepts_iff {field : ResolvedField} {entries : List Entry} :
    (∃ leaves, c.leavesAt depth field entries = .ok leaves) ↔ ∀ entry ∈ entries, ∃ leaf,
      Clause.build c.settings field entry
        (entry.operand.compileEmbedded (c.subQueryAt (depth + 1))) = .ok leaf := by
  simp only [leavesAt_eq_ok_iff, exists_forall₂_iff]

/-- A criterion is accepted if there is a field for its entries, those that only filter included, and
if its scoring entries are accepted. -/
theorem fragmentAt_accepts_iff :
    (∃ own, c.fragmentAt depth criterion = .ok own) ↔
      (criterion.queryEntries ≠ [] ∨ criterion.filterEntries ≠ [] → criterion.field ≠ none) ∧
        c.AcceptsQueryEntries depth criterion := by
  obtain ⟨field, joiner, negated, queryEntries, filterEntries, boost, nested⟩ := criterion
  cases field with
  | none =>
    rw [fragmentAt, AcceptsQueryEntries]
    cases queryEntries <;> cases filterEntries <;> simp
  | some field =>
    cases queryEntries with
    | nil =>
      rw [fragmentAt, AcceptsQueryEntries]
      simp
    | cons entry rest =>
      rw [fragmentAt, AcceptsQueryEntries]
      · simp only [bind_eq_ok_iff, pure_eq_ok_iff, Option.mem_some_iff, forall_eq',
          ← leavesAt_accepts_iff]
        simp
      · exact List.cons_ne_nil entry rest

theorem fragmentsAt_accepts_iff {chain : List Criterion} :
    (∃ own, c.fragmentsAt depth chain = .ok own) ↔
      ∀ criterion ∈ chain, ∃ own, c.fragmentAt depth criterion = .ok own := by
  rw [exists_eq_ok_iff (by rw [fragmentsAt]) fun _ _ _ => fragmentsAt_cons_eq_ok_iff]
  simp only [map_eq_ok_iff, exists_comm, exists_and_left, exists_eq', and_true]

theorem nestedListAt_accepts_iff {list : List Criteria} :
    (∃ queries, c.nestedListAt depth list = .ok queries) ↔
      ∀ nested ∈ list, ∃ tree, c.criteriaAt (depth + 1) nested = .ok tree := by
  rw [exists_eq_ok_iff (by rw [nestedListAt]) fun _ _ _ => nestedListAt_cons_eq_ok_iff]
  simp only [map_eq_ok_iff, exists_comm, exists_and_left, exists_eq', and_true]

theorem nestedAt_accepts_iff {chain : List Criterion} :
    (∃ nested, c.nestedAt depth chain = .ok nested) ↔
      ∀ owner ∈ chain, ∀ nested ∈ owner.nested, ∃ tree,
        c.criteriaAt (depth + 1) nested = .ok tree := by
  rw [exists_eq_ok_iff (by rw [nestedAt]) fun _ _ _ => nestedAt_cons_eq_ok_iff]
  simp only [map_eq_ok_iff, exists_comm, exists_and_left, exists_eq', and_true,
    nestedListAt_accepts_iff]

/-- Criteria have a scoring tree if their criteria are accepted and all that is nested in them has
one. -/
theorem criteriaAt_accepts_step (depth : Nat) (criteria : Criteria) :
    (∃ tree, c.criteriaAt depth criteria = .ok tree) ↔
      depth ≤ c.settings.maxDepth ∧
        (∀ criterion ∈ criteria.chain, ∃ own, c.fragmentAt depth criterion = .ok own) ∧
        ∀ nested, criteria.Nests nested → ∃ tree, c.criteriaAt (depth + 1) nested = .ok tree := by
  rw [← fragmentsAt_accepts_iff]
  constructor
  · rintro ⟨_, compiled⟩
    obtain ⟨allowed, own, nested, first, second, -⟩ := criteriaAt_eq_ok_iff.mp compiled
    have below := nestedAt_accepts_iff.mp ⟨nested, second⟩
    exact ⟨allowed, ⟨own, first⟩, Criteria.forall_nests_iff.mpr below⟩
  · rintro ⟨allowed, ⟨own, first⟩, below⟩
    obtain ⟨nested, second⟩ := nestedAt_accepts_iff.mpr (Criteria.forall_nests_iff.mp below)
    exact ⟨_, criteriaAt_eq_ok_iff.mpr ⟨allowed, own, nested, first, second, rfl⟩⟩

theorem criteriaAt_accepts_iff (c : Compiler) (depth : Nat) (criteria : Criteria) :
    (∃ tree, c.criteriaAt depth criteria = .ok tree) ↔
      depth + criteria.levels ≤ c.settings.maxDepth ∧
        ∀ level criterion, criteria.Contains level criterion →
          (criterion.queryEntries ≠ [] ∨ criterion.filterEntries ≠ [] → criterion.field ≠ none) ∧
            c.AcceptsQueryEntries (depth + level) criterion := by
  have spread := Criteria.iff_on_all_levels c.criteriaAt_accepts_step depth criteria
  simpa only [fragmentAt_accepts_iff] using spread

/-- The own predicates of a criterion that filter are built if there is a field for its filtering
entries and these are accepted. -/
theorem predicates_accepts_iff :
    (∃ own, List.Forall₂ (Filter.IsPredicateOf c.resolve criterion.field) criterion.filterEntries
        own) ↔
      (criterion.filterEntries ≠ [] → criterion.field ≠ none) ∧ c.AcceptsFilterEntries criterion := by
  rw [exists_forall₂_iff]
  constructor
  · intro each
    constructor
    · intro some
      obtain ⟨entry, mem⟩ := List.exists_mem_of_ne_nil _ some
      obtain ⟨_, field, named, -⟩ := each entry mem
      exact Option.ne_none_iff_exists'.mpr ⟨field, named⟩
    · intro field named entry mem
      obtain ⟨_, field', named', predicate, accepted, -⟩ := each entry mem
      cases Option.mem_unique named named'
      exact ⟨predicate, accepted⟩
  · rintro ⟨grounded, accepted⟩ entry mem
    obtain ⟨field, named⟩ := Option.ne_none_iff_exists'.mp (grounded (List.ne_nil_of_mem mem))
    obtain ⟨predicate, found⟩ := accepted field named entry mem
    exact ⟨_, field, named, predicate, found, Filter.encloses_iff_place_eq.mpr rfl⟩

theorem hasPieces_accepts_iff {maxDepth : Nat} :
    (∃ pieces, Filter.HasPieces c.resolve maxDepth depth criterion pieces) ↔
      (∃ own, List.Forall₂ (Filter.IsPredicateOf c.resolve criterion.field) criterion.filterEntries
          own) ∧
        ∀ nested ∈ criterion.nested, ∃ filter,
          Filter.ofCriteria c.resolve maxDepth (depth + 1) nested = .ok filter := by
  rw [← exists_forall₂_iff]
  constructor
  · rintro ⟨_, own, below, built, compiled, -⟩
    exact ⟨⟨own, built⟩, below, compiled⟩
  · rintro ⟨⟨own, built⟩, below, compiled⟩
    exact ⟨_, own, below, built, compiled, rfl⟩

/-- Criteria have a filter, or none, if their filtering entries are accepted and so are those of all
that is nested in them. -/
theorem ofCriteria_accepts_step (depth : Nat) (criteria : Criteria) :
    (∃ filter, Filter.ofCriteria c.resolve c.settings.maxDepth depth criteria = .ok filter) ↔
      depth ≤ c.settings.maxDepth ∧
        (∀ criterion ∈ criteria.chain, (criterion.filterEntries ≠ [] → criterion.field ≠ none) ∧
          c.AcceptsFilterEntries criterion) ∧
        ∀ nested, criteria.Nests nested → ∃ filter,
          Filter.ofCriteria c.resolve c.settings.maxDepth (depth + 1) nested = .ok filter := by
  have pieces : (∃ pieces, List.Forall₂ (Filter.HasPieces c.resolve c.settings.maxDepth depth)
      criteria.chain pieces) ↔ _ := exists_forall₂_iff
  simp only [hasPieces_accepts_iff, predicates_accepts_iff] at pieces
  constructor
  · rintro ⟨_, compiled⟩
    obtain ⟨allowed, found, has, -⟩ := Filter.ofCriteria_eq_ok_iff.mp compiled
    have each := pieces.mp ⟨found, has⟩
    exact ⟨allowed, fun criterion mem => (each criterion mem).1,
      Criteria.forall_nests_iff.mpr fun owner mem => (each owner mem).2⟩
  · rintro ⟨allowed, own, below⟩
    have nested := Criteria.forall_nests_iff.mp below
    obtain ⟨found, has⟩ := pieces.mpr fun criterion mem =>
      ⟨own criterion mem, nested criterion mem⟩
    exact ⟨_, Filter.ofCriteria_eq_ok_iff.mpr ⟨allowed, found, has, rfl⟩⟩

theorem ofCriteria_accepts_iff (c : Compiler) (depth : Nat) (criteria : Criteria) :
    (∃ filter, Filter.ofCriteria c.resolve c.settings.maxDepth depth criteria = .ok filter) ↔
      depth + criteria.levels ≤ c.settings.maxDepth ∧
        ∀ level criterion, criteria.Contains level criterion →
          (criterion.filterEntries ≠ [] → criterion.field ≠ none) ∧
            c.AcceptsFilterEntries criterion :=
  Criteria.iff_on_all_levels c.ofCriteria_accepts_step depth criteria

/-- Criteria compile if and only if they are not nested too deep and nothing in them is malformed at
any level: every entry has a field, and the entries that a compilation looks at are accepted. -/
theorem compiles_iff (c : Compiler) (criteria : Criteria) :
    ((∃ tree, c.build criteria = .ok tree) ↔
        criteria.levels ≤ c.settings.maxDepth ∧
          ∀ level criterion, criteria.Contains level criterion →
            (criterion.queryEntries ≠ [] ∨ criterion.filterEntries ≠ [] → criterion.field ≠ none) ∧
              c.AcceptsQueryEntries level criterion ∧ c.AcceptsFilterEntries criterion) ∧
      ((∃ tree, c.compile criteria = .ok tree) ↔
        criteria.levels ≤ c.settings.maxDepth ∧
          ∀ level criterion, criteria.Contains level criterion →
            (criterion.queryEntries ≠ [] ∨ criterion.filterEntries ≠ [] → criterion.field ≠ none) ∧
              c.AcceptsQueryEntries level criterion) ∧
      ((∃ tree, c.compileFilter criteria = .ok tree) ↔
        criteria.levels ≤ c.settings.maxDepth ∧
          ∀ level criterion, criteria.Contains level criterion →
            (criterion.filterEntries ≠ [] → criterion.field ≠ none) ∧
              c.AcceptsFilterEntries criterion) := by
  have scoring := criteriaAt_accepts_iff c 0 criteria
  have filtering := ofCriteria_accepts_iff c 0 criteria
  simp only [Nat.zero_add] at scoring filtering
  refine ⟨?_, scoring, filtering⟩
  have both : (∃ tree, c.build criteria = .ok tree) ↔
      (∃ tree, c.compile criteria = .ok tree) ∧ ∃ filter, c.compileFilter criteria = .ok filter := by
    simp only [build_eq_ok_iff]
    constructor
    · rintro ⟨_, query, filter, compiled, compiled', -⟩
      exact ⟨⟨query, compiled⟩, filter, compiled'⟩
    · rintro ⟨⟨query, compiled⟩, filter, compiled'⟩
      exact ⟨_, query, filter, compiled, compiled', rfl⟩
  rw [both, compile, compileFilter, scoring, filtering]
  constructor
  · rintro ⟨⟨room, own⟩, -, filters⟩
    refine ⟨room, fun level criterion within => ?_⟩
    obtain ⟨grounded, accepted⟩ := own level criterion within
    exact ⟨grounded, accepted, (filters level criterion within).2⟩
  · rintro ⟨room, all⟩
    refine ⟨⟨room, fun level criterion within => ?_⟩, room, fun level criterion within => ?_⟩
    · obtain ⟨grounded, accepted, -⟩ := all level criterion within
      exact ⟨grounded, accepted⟩
    · obtain ⟨grounded, -, accepted⟩ := all level criterion within
      exact ⟨fun some => grounded (.inr some), accepted⟩

end Compiler

end SearchCriteria
