import SearchCriteria.Clause.Basic

/-!
# How deep criteria are nested

Criteria nest in two ways: a criterion can hold criteria, and the operand of a scoring entry can
embed a query for the children or the parent of a document. Filters only know the first way, scoring
trees know both. So there are two measures, the levels of nested criteria and the nesting of a
query, and the first is never greater than the second.

What is said of criteria is mostly said of everything nested in them. Such a statement is proved from
one level to the next: by `Criteria.induction_on_nested` if embedded queries do not matter, and as
`Hereditary` if they do. By `Criteria.forall_contains_iff` and `Criteria.iff_on_all_levels` it is
spread over the criteria of all levels.
-/

namespace SearchCriteria

namespace Criteria

/-- Criteria are nested in one of the criteria of the chain. -/
def Nests (criteria nested : Criteria) : Prop :=
  ∃ owner ∈ criteria.chain, nested ∈ owner.nested

/-- A query is embedded in the operand of a scoring entry of the chain. -/
def Embeds (criteria : Criteria) (query : Query) : Prop :=
  ∃ owner ∈ criteria.chain, ∃ entry ∈ owner.queryEntries, entry.operand.embedded? = some query

theorem nests_iff {criteria nested : Criteria} :
    criteria.Nests nested ↔ nested ∈ criteria.chain.flatMap Criterion.nested :=
  List.mem_flatMap.symm

theorem forall_nests_iff {criteria : Criteria} {holds : Criteria → Prop} :
    (∀ nested, criteria.Nests nested → holds nested) ↔
      ∀ owner ∈ criteria.chain, ∀ nested ∈ owner.nested, holds nested := by
  constructor
  · intro all owner mem nested mem'
    exact all nested ⟨owner, mem, mem'⟩
  · rintro all nested ⟨owner, mem, mem'⟩
    exact all owner mem nested mem'

theorem forall_embeds_iff {criteria : Criteria} {holds : Query → Prop} :
    (∀ query, criteria.Embeds query → holds query) ↔
      ∀ owner ∈ criteria.chain, ∀ entry ∈ owner.queryEntries, ∀ query,
        entry.operand.embedded? = some query → holds query := by
  constructor
  · intro all owner mem entry mem' query embedded
    exact all query ⟨owner, mem, entry, mem', embedded⟩
  · rintro all query ⟨owner, mem, entry, mem', embedded⟩
    exact all owner mem entry mem' query embedded

/-- A criterion stands in criteria, so many levels of nested criteria below their own chain. -/
inductive Contains : Criteria → Nat → Criterion → Prop where
  | inChain {criteria : Criteria} {criterion : Criterion} (mem : criterion ∈ criteria.chain) :
      Contains criteria 0 criterion
  | inNested {criteria nested : Criteria} {level : Nat} {criterion : Criterion}
      (nests : criteria.Nests nested) (within : Contains nested level criterion) :
      Contains criteria (level + 1) criterion

theorem sizeOf_lt_of_nests {criteria nested : Criteria} (h : criteria.Nests nested) :
    sizeOf nested < sizeOf criteria := by
  obtain ⟨owner, mem, mem'⟩ := h
  obtain ⟨chain⟩ := criteria
  have outer : sizeOf owner < sizeOf chain := List.sizeOf_lt_of_mem mem
  have inner : sizeOf nested < sizeOf owner.nested := List.sizeOf_lt_of_mem mem'
  have below : sizeOf owner.nested < sizeOf owner := by
    cases owner
    simp only [Criterion.mk.sizeOf_spec]
    omega
  simp only [mk.sizeOf_spec]
  omega

theorem sizeOf_lt_of_embeds {criteria : Criteria} {query : Query} (h : criteria.Embeds query) :
    sizeOf query < sizeOf criteria := by
  obtain ⟨owner, mem, entry, mem', embedded⟩ := h
  obtain ⟨chain⟩ := criteria
  have outer : sizeOf owner < sizeOf chain := List.sizeOf_lt_of_mem mem
  have middle : sizeOf entry < sizeOf owner.queryEntries := List.sizeOf_lt_of_mem mem'
  have below : sizeOf owner.queryEntries < sizeOf owner := by
    cases owner
    simp only [Criterion.mk.sizeOf_spec]
    omega
  have inner : sizeOf query < sizeOf entry := by
    obtain ⟨operator, operand⟩ := entry
    cases operand <;> cases embedded <;> simp <;> omega
  simp only [mk.sizeOf_spec]
  omega

/-- What holds of criteria as soon as it holds of all that are nested in them holds of all. -/
@[elab_as_elim]
theorem induction_on_nested {motive : Criteria → Prop}
    (step : ∀ criteria, (∀ nested, criteria.Nests nested → motive nested) → motive criteria)
    (criteria : Criteria) : motive criteria :=
  step criteria fun nested _ => induction_on_nested step nested
termination_by sizeOf criteria
decreasing_by exact sizeOf_lt_of_nests ‹_›

end Criteria

/-- A property of queries and one of criteria that go from everything nested in criteria, and embedded
in them, to the criteria. -/
structure Hereditary (ofQuery : Query → Prop) (ofCriteria : Criteria → Prop) : Prop where
  step : ∀ criteria, (∀ nested, criteria.Nests nested → ofCriteria nested) →
    (∀ query, criteria.Embeds query → ofQuery query) → ofCriteria criteria
  criteria : ∀ criteria, ofCriteria criteria → ofQuery (.criteria criteria)
  wrapped : ∀ query, ofQuery query → ofQuery (.wrapped query)
  text : ∀ source, ofQuery (.text source)
  native : ∀ tree, ofQuery (.native tree)
  template : ∀ id params, ofQuery (.template id params)

namespace Hereditary

variable {ofQuery : Query → Prop} {ofCriteria : Criteria → Prop}

mutual

theorem holds_query (h : Hereditary ofQuery ofCriteria) : ∀ query, ofQuery query
  | .criteria criteria => h.criteria criteria (h.holds_criteria criteria)
  | .wrapped query => h.wrapped query (h.holds_query query)
  | .text source => h.text source
  | .native tree => h.native tree
  | .template id params => h.template id params
termination_by query => sizeOf query

theorem holds_criteria (h : Hereditary ofQuery ofCriteria) (criteria : Criteria) :
    ofCriteria criteria :=
  h.step criteria (fun nested _ => h.holds_criteria nested) (fun query _ => h.holds_query query)
termination_by sizeOf criteria
decreasing_by
  · exact Criteria.sizeOf_lt_of_nests ‹_›
  · exact Criteria.sizeOf_lt_of_embeds ‹_›

end

end Hereditary

namespace Criteria

/-- The criteria of all levels are those of the chain and those of what is nested in it. -/
theorem forall_contains_iff {criteria : Criteria} {holds : Nat → Criterion → Prop} :
    (∀ level criterion, criteria.Contains level criterion → holds level criterion) ↔
      (∀ criterion ∈ criteria.chain, holds 0 criterion) ∧
        ∀ nested, criteria.Nests nested → ∀ level criterion, nested.Contains level criterion →
          holds (level + 1) criterion := by
  constructor
  · intro all
    exact ⟨fun criterion mem => all 0 criterion (.inChain mem),
      fun nested nests level criterion within => all _ criterion (.inNested nests within)⟩
  · rintro ⟨chain, below⟩ _ criterion (mem | ⟨nests, within⟩)
    · exact chain criterion mem
    · exact below _ nests _ criterion within

mutual

/-- How many levels of nested criteria lie below criteria. -/
def levels : Criteria → Nat
  | ⟨chain⟩ => levelsOfChain chain

def levelsOfChain : List Criterion → Nat
  | [] => 0
  | ⟨_, _, _, _, _, _, nested⟩ :: rest => max (levelsOfNested nested) (levelsOfChain rest)

def levelsOfNested : List Criteria → Nat
  | [] => 0
  | criteria :: rest => max (levels criteria + 1) (levelsOfNested rest)

end

end Criteria

mutual

/-- How deep criteria and embedded queries are nested in a query. Only criteria hold others; to wrap
a query nests nothing. -/
def Query.nesting : Query → Nat
  | .criteria criteria => criteria.nesting
  | .wrapped query => query.nesting
  | .text _ => 0
  | .native _ => 0
  | .template _ _ => 0

/-- How deep criteria and embedded queries are nested in criteria, which is what the deepest of their
criteria holds. -/
def Criteria.nesting : Criteria → Nat
  | ⟨chain⟩ => Criteria.nestingOfChain chain

def Criteria.nestingOfChain : List Criterion → Nat
  | [] => 0
  | ⟨_, _, _, queryEntries, _, _, nested⟩ :: rest =>
    max (max (Criteria.nestingOfEntries queryEntries) (Criteria.nestingOfNested nested))
      (Criteria.nestingOfChain rest)

def Criteria.nestingOfEntries : List Entry → Nat
  | [] => 0
  | ⟨_, operand⟩ :: rest => max operand.nesting (Criteria.nestingOfEntries rest)

/-- What an operand embeds lies one level below it. -/
def Operand.nesting : Operand → Nat
  | .hasChild _ query _ _ => query.nesting + 1
  | .hasParent _ query _ _ => query.nesting + 1
  | _ => 0

def Criteria.nestingOfNested : List Criteria → Nat
  | [] => 0
  | criteria :: rest => max (criteria.nesting + 1) (Criteria.nestingOfNested rest)

end

/-- An operand nests what it embeds, one level deeper. -/
theorem Operand.nesting_le_iff (operand : Operand) {limit : Nat} :
    operand.nesting ≤ limit ↔
      ∀ query, operand.embedded? = some query → query.nesting + 1 ≤ limit := by
  cases operand <;> simp [Operand.nesting, Operand.embedded?]

namespace Criteria

theorem levelsOfNested_le_iff {list : List Criteria} {limit : Nat} :
    levelsOfNested list ≤ limit ↔ ∀ nested ∈ list, nested.levels + 1 ≤ limit := by
  induction list with
  | nil => simp [levelsOfNested]
  | cons criteria rest ih => rw [levelsOfNested, Nat.max_le, ih, List.forall_mem_cons]

theorem levelsOfChain_le_iff {chain : List Criterion} {limit : Nat} :
    levelsOfChain chain ≤ limit ↔
      ∀ owner ∈ chain, ∀ nested ∈ owner.nested, nested.levels + 1 ≤ limit := by
  induction chain with
  | nil => simp [levelsOfChain]
  | cons owner rest ih =>
    obtain ⟨field, joiner, negated, queryEntries, filterEntries, boost, nested⟩ := owner
    rw [levelsOfChain, Nat.max_le, ih, levelsOfNested_le_iff, List.forall_mem_cons]

/-- The levels of criteria stay within a limit if those of all that are nested in them stay below
it. -/
theorem levels_le_iff {criteria : Criteria} {limit : Nat} :
    criteria.levels ≤ limit ↔ ∀ nested, criteria.Nests nested → nested.levels + 1 ≤ limit := by
  obtain ⟨chain⟩ := criteria
  rw [levels, levelsOfChain_le_iff, forall_nests_iff]

/-- Criteria at some depth stay within a limit if they do not lie below it and all that is nested in
them, one level deeper, stays within it. -/
theorem depth_add_levels_le_iff {criteria : Criteria} {depth limit : Nat} :
    depth + criteria.levels ≤ limit ↔
      depth ≤ limit ∧ ∀ nested, criteria.Nests nested → depth + 1 + nested.levels ≤ limit := by
  constructor
  · intro room
    refine ⟨by omega, fun nested nests => ?_⟩
    have := levels_le_iff.mp (Nat.le_refl criteria.levels) nested nests
    omega
  · rintro ⟨allowed, below⟩
    have room : criteria.levels ≤ limit - depth := levels_le_iff.mpr fun nested nests => by
      have := below nested nests
      omega
    omega

/-- What is refused below a limit on the depth, and otherwise goes for criteria if it goes for each
criterion of the chain and for all that is nested one level deeper, goes for criteria if they fit
under the limit and it goes for the criteria of all levels. -/
theorem iff_on_all_levels {accepted : Nat → Criteria → Prop} {own : Nat → Criterion → Prop}
    {limit : Nat}
    (step : ∀ depth criteria, accepted depth criteria ↔
      depth ≤ limit ∧ (∀ criterion ∈ criteria.chain, own depth criterion) ∧
        ∀ nested, criteria.Nests nested → accepted (depth + 1) nested)
    (depth : Nat) (criteria : Criteria) :
    accepted depth criteria ↔
      depth + criteria.levels ≤ limit ∧
        ∀ level criterion, criteria.Contains level criterion → own (depth + level) criterion := by
  induction criteria using induction_on_nested generalizing depth with
  | step criteria ih =>
    rw [step, depth_add_levels_le_iff, forall_contains_iff]
    constructor
    · rintro ⟨allowed, chain, below⟩
      have inside : ∀ nested, criteria.Nests nested → _ :=
        fun nested nests => (ih nested nests (depth + 1)).mp (below nested nests)
      refine ⟨⟨allowed, fun nested nests => (inside nested nests).1⟩, chain, ?_⟩
      intro nested nests level criterion within
      rw [← Nat.add_assoc, Nat.add_right_comm]
      exact (inside nested nests).2 level criterion within
    · rintro ⟨⟨allowed, room⟩, chain, below⟩
      refine ⟨allowed, chain, fun nested nests => ?_⟩
      refine (ih nested nests (depth + 1)).mpr ⟨room nested nests, ?_⟩
      intro level criterion within
      rw [Nat.add_right_comm, Nat.add_assoc]
      exact below nested nests level criterion within

theorem nestingOfEntries_le_iff {entries : List Entry} {limit : Nat} :
    nestingOfEntries entries ≤ limit ↔ ∀ entry ∈ entries, ∀ query,
      entry.operand.embedded? = some query → query.nesting + 1 ≤ limit := by
  induction entries with
  | nil => simp [nestingOfEntries]
  | cons entry rest ih =>
    obtain ⟨operator, operand⟩ := entry
    rw [nestingOfEntries, Nat.max_le, ih, List.forall_mem_cons, operand.nesting_le_iff]

theorem nestingOfNested_le_iff {list : List Criteria} {limit : Nat} :
    nestingOfNested list ≤ limit ↔ ∀ nested ∈ list, nested.nesting + 1 ≤ limit := by
  induction list with
  | nil => simp [nestingOfNested]
  | cons criteria rest ih => rw [nestingOfNested, Nat.max_le, ih, List.forall_mem_cons]

theorem nestingOfChain_le_iff {chain : List Criterion} {limit : Nat} :
    nestingOfChain chain ≤ limit ↔ ∀ owner ∈ chain,
      (∀ entry ∈ owner.queryEntries, ∀ query, entry.operand.embedded? = some query →
        query.nesting + 1 ≤ limit) ∧
      ∀ nested ∈ owner.nested, nested.nesting + 1 ≤ limit := by
  induction chain with
  | nil => simp [nestingOfChain]
  | cons owner rest ih =>
    obtain ⟨field, joiner, negated, queryEntries, filterEntries, boost, nested⟩ := owner
    rw [nestingOfChain, Nat.max_le, Nat.max_le, ih, List.forall_mem_cons, nestingOfEntries_le_iff,
      nestingOfNested_le_iff]

/-- The nesting of criteria stays within a limit if that of all that is nested in them, or embedded,
stays below it. -/
theorem nesting_le_iff {criteria : Criteria} {limit : Nat} :
    criteria.nesting ≤ limit ↔
      (∀ query, criteria.Embeds query → query.nesting + 1 ≤ limit) ∧
        ∀ nested, criteria.Nests nested → nested.nesting + 1 ≤ limit := by
  obtain ⟨chain⟩ := criteria
  rw [nesting, nestingOfChain_le_iff, forall_embeds_iff, forall_nests_iff]
  constructor
  · intro all
    exact ⟨fun owner mem => (all owner mem).1, fun owner mem => (all owner mem).2⟩
  · rintro ⟨embeds, nests⟩ owner mem
    exact ⟨embeds owner mem, nests owner mem⟩

theorem depth_add_nesting_le_iff {criteria : Criteria} {depth limit : Nat} :
    depth + criteria.nesting ≤ limit ↔
      depth ≤ limit ∧ (∀ query, criteria.Embeds query → depth + 1 + query.nesting ≤ limit) ∧
        ∀ nested, criteria.Nests nested → depth + 1 + nested.nesting ≤ limit := by
  constructor
  · intro room
    obtain ⟨embeds, nests⟩ := nesting_le_iff.mp (Nat.le_refl criteria.nesting)
    refine ⟨by omega, fun query embedded => ?_, fun nested inside => ?_⟩
    · have := embeds query embedded
      omega
    · have := nests nested inside
      omega
  · rintro ⟨allowed, embeds, nests⟩
    have room : criteria.nesting ≤ limit - depth := nesting_le_iff.mpr
      ⟨fun query embedded => by have := embeds query embedded; omega,
        fun nested inside => by have := nests nested inside; omega⟩
    omega

/-- Filters look at fewer levels than scoring trees, since they do not look into operands. -/
theorem levels_le_nesting (criteria : Criteria) : criteria.levels ≤ criteria.nesting := by
  induction criteria using induction_on_nested with
  | step criteria ih =>
    refine levels_le_iff.mpr fun nested nests => ?_
    have deeper := (nesting_le_iff.mp (Nat.le_refl criteria.nesting)).2 nested nests
    have := ih nested nests
    omega

end Criteria

end SearchCriteria
