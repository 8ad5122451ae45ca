import SearchCriteria.Proofs.Depth
import SearchCriteria.Proofs.Simulation

/-!
# Criteria and queries at any depth

The depth at which something stands counts only against the limit. Criteria that fit under the limit
where they stand have the scoring tree and the filter that they have on their own, and so does a
query that is embedded in an operand: it compiles to what it would be dispatched to. What has
compiled did fit.
-/

namespace SearchCriteria

/-- Criteria have one filter wherever there is room for them. -/
theorem Filter.ofCriteria_relocate {resolve : Resolver} {maxDepth depth depth' : Nat}
    {criteria : Criteria} (room : depth + criteria.levels ≤ maxDepth)
    (room' : depth' + criteria.levels ≤ maxDepth) :
    ofCriteria resolve maxDepth depth criteria = ofCriteria resolve maxDepth depth' criteria := by
  induction criteria using Criteria.induction_on_nested generalizing depth depth' with
  | step criteria ih =>
    obtain ⟨allowed, below⟩ := Criteria.depth_add_levels_le_iff.mp room
    obtain ⟨allowed', below'⟩ := Criteria.depth_add_levels_le_iff.mp room'
    apply ofCriteria_eq (by omega)
    refine List.forall₂_same.mpr fun owner mem => ⟨rfl, rfl, rfl, ?_⟩
    refine List.forall₂_same.mpr fun nested mem' => ?_
    have nests : criteria.Nests nested := ⟨owner, mem, mem'⟩
    exact ih nested nests (below nested nests) (below' nested nests)

namespace Compiler

variable {c : Compiler} {depth : Nat} {criteria : Criteria} {query : Query}

/-- Above the limit it is only the kind of a query that decides whether it may be embedded. -/
theorem allowAt_eq (kind : QueryKind) (allowed : depth ≤ c.settings.maxDepth) :
    c.allowAt depth kind = c.allowAt 0 kind := by
  rw [allowAt, allowAt, if_neg (Nat.not_lt.mpr allowed), if_neg (Nat.not_lt_zero _)]

theorem hereditary_relocation (c : Compiler) :
    Hereditary
      (fun query => ∀ depth, depth + query.nesting ≤ c.settings.maxDepth →
        c.queryAt depth query = c.queryAt 0 query)
      (fun criteria => ∀ depth, depth + criteria.nesting ≤ c.settings.maxDepth →
        c.criteriaAt depth criteria = c.criteriaAt 0 criteria) where
  step criteria nests embeds depth room := by
    obtain ⟨allowed, embedded, below⟩ := Criteria.depth_add_nesting_le_iff.mp room
    have together : c.settings.maxDepth < depth ↔ c.settings.maxDepth < 0 := by omega
    apply criteriaAt_related .eq (.refl c) together
    · intro query asked
      have here := embedded query asked
      have top : 0 + 1 + query.nesting ≤ c.settings.maxDepth := by omega
      have kinds : c.allowAt (depth + 1) query.kind = c.allowAt (0 + 1) query.kind := by
        rw [allowAt_eq query.kind (by omega : depth + 1 ≤ c.settings.maxDepth),
          allowAt_eq query.kind (by omega : 0 + 1 ≤ c.settings.maxDepth)]
      rw [subQueryAt, subQueryAt, kinds, embeds query asked _ here, embeds query asked _ top]
    · intro nested inside
      have here := below nested inside
      have top : 0 + 1 + nested.nesting ≤ c.settings.maxDepth := by omega
      rw [nests nested inside _ here, nests nested inside _ top]
  criteria criteria ih depth room := by
    rw [Query.nesting] at room
    exact queryAt_criteria_related .eq (.refl c) (ih depth room)
  wrapped query ih depth room := by
    rw [Query.nesting] at room
    rw [queryAt, queryAt]
    exact ih depth room
  text source depth room := by rw [queryAt, queryAt]
  native tree depth room := by rw [queryAt, queryAt]
  template id params depth room := by rw [queryAt, queryAt]

/-- Nested criteria have the scoring tree that they have on their own, where there is room for them.
-/
theorem criteriaAt_eq_compile (room : depth + criteria.nesting ≤ c.settings.maxDepth) :
    c.criteriaAt depth criteria = c.compile criteria :=
  c.hereditary_relocation.holds_criteria criteria depth room

/-- An embedded query compiles to what it is dispatched to, where there is room for it. -/
theorem subQueryAt_eq_dispatch (every : c.embedding = .everyQuery)
    (room : depth + query.nesting ≤ c.settings.maxDepth) :
    c.subQueryAt depth query = c.dispatch query id := by
  have allowed : c.allowAt depth query.kind = .ok () := by
    rw [allowAt, if_neg (by omega), if_neg (by simp [every])]
  rw [subQueryAt, allowed]
  exact c.hereditary_relocation.holds_query query depth room

/-- Criteria that compile are not nested too deep for where they stand. -/
theorem nesting_le_of_criteriaAt {tree : Option QueryTree}
    (h : c.criteriaAt depth criteria = .ok tree) :
    depth + criteria.nesting ≤ c.settings.maxDepth := by
  have exact : FitsIff (depth + criteria.nesting ≤ c.settings.maxDepth)
      (c.criteriaAt depth criteria) (c.criteriaAt depth criteria) :=
    (c.hereditary_fits (Nat.le_refl c.settings.maxDepth)).holds_criteria criteria depth
  by_contra deep
  obtain ⟨fault, failed⟩ := exact.refused deep
  rw [h] at failed
  cases failed

theorem compile_of_criteriaAt {tree : Option QueryTree}
    (h : c.criteriaAt depth criteria = .ok tree) : c.compile criteria = .ok tree := by
  rw [← criteriaAt_eq_compile (nesting_le_of_criteriaAt h)]
  exact h

end Compiler

end SearchCriteria
