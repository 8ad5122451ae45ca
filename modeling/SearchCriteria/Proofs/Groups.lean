import SearchCriteria.Proofs.Parts

/-!
# Groups of predicates and where they are moved

The predicates of a criterion make a group: a single one stands for itself, several have to match
together. The group has the boost of its criterion at its root, whatever it is made of, and nothing
in it has a boost or is moved to nested documents. A group as a whole is moved if its field lives in
nested documents.
-/

namespace SearchCriteria

namespace QueryTree

/-- A tree has a boost at its root, or none, and none elsewhere, and nothing in it is moved. -/
structure Flat (boost : Option Double) (tree : QueryTree) : Prop where
  root : tree.boost? = boost
  unmoved : tree.path? = none
  below : ∃ rest, tree.parts [] = ([], tree) :: rest ∧
    ∀ part ∈ rest, part.1 = [] ∧ part.2.boost? = none ∧ part.2.path? = none

namespace Flat

variable {boost : Option Double} {tree : QueryTree}

theorem boostedParts (h : tree.Flat boost) :
    tree.boostedParts = [tree].filter fun part => part.boost?.isSome := by
  obtain ⟨rest, parts, plain⟩ := h.below
  have none : (rest.map Prod.snd).filter (fun part => part.boost?.isSome) = [] := by
    apply List.filter_eq_nil_iff.mpr
    intro part mem
    obtain ⟨place, inside, rfl⟩ := List.mem_map.mp mem
    simp [(plain place inside).2.1]
  rw [QueryTree.boostedParts, parts, List.map_cons, ← List.singleton_append, List.filter_append,
    none, List.append_nil]

theorem mem_parts (h : tree.Flat boost) {part : Scope × QueryTree} (mem : part ∈ tree.parts []) :
    part.1 = [] ∧ part.2.path? = none ∧ (part.2 = tree ∨ part.2.boost? = none) := by
  obtain ⟨rest, parts, plain⟩ := h.below
  rw [parts] at mem
  rcases List.mem_cons.mp mem with rfl | inside
  · exact ⟨rfl, h.unmoved, .inl rfl⟩
  · obtain ⟨above, unboosted, unmoved⟩ := plain part inside
    exact ⟨above, unmoved, .inr unboosted⟩

/-- Nothing in a flat tree without a boost has a boost. -/
theorem boost?_eq_none (h : tree.Flat none) {part : Scope × QueryTree}
    (mem : part ∈ tree.parts []) : part.2.boost? = none := by
  rcases (h.mem_parts mem).2.2 with root | unboosted
  · rw [root, h.root]
  · exact unboosted

theorem moves (h : tree.Flat boost) : tree.moves = [] := by
  apply List.filter_eq_nil_iff.mpr
  intro part mem
  simp [(h.mem_parts mem).2.1]

/-- Nothing stands above the predicates of a flat tree. -/
theorem scope_eq_nil (h : tree.Flat boost) : ∀ part ∈ tree.predicates, part.1 = [] := by
  intro part mem
  exact (h.mem_parts (List.mem_filter.mp mem).1).1

end Flat

theorem flat_geo (predicate : GeoPredicate) : (geo predicate).Flat none :=
  ⟨rfl, rfl, [], parts_geo [] predicate, by simp⟩

/-- What a scoring entry is built into: a predicate, a boolean query of predicates, or a
relationship. None of these has a boost yet. -/
inductive Simple : QueryTree → Prop where
  | leaf (predicate : Leaf) : Simple (.leaf predicate none)
  | bool {q : BoolQuery} (unboosted : q.boost = none)
      (each : ∀ clause ∈ q.clauses, ∃ predicate, clause = .leaf predicate none) : Simple (.bool q)
  | related {tree query : QueryTree} (asks : tree.asked? = some query)
      (unboosted : tree.boost? = none) : Simple tree

theorem path?_of_asked {tree query : QueryTree} (asks : tree.asked? = some query) :
    tree.path? = none := by
  cases tree with
  | nested => contradiction
  | leaf | geo | wrapper | bool | hasChild | hasParent => rfl

/-- A relationship has a place for a boost. -/
theorem boost?_boosted_of_asked {tree query : QueryTree} (asks : tree.asked? = some query)
    (boost : Double) : (tree.boosted boost).boost? = some boost := by
  cases tree with
  | hasChild | hasParent => rfl
  | leaf | geo | wrapper | bool | nested => contradiction

/-- Whatever an entry is built into takes a boost, at its root. -/
theorem Simple.flat_withBoost {tree : QueryTree} (h : tree.Simple) (boost : Option Double) :
    (tree.withBoost boost).Flat boost := by
  cases h with
  | leaf predicate =>
    cases boost with
    | none => exact ⟨rfl, rfl, [], by simp, by simp⟩
    | some boost => exact ⟨rfl, rfl, [], by simp [boosted], by simp⟩
  | @bool q unboosted each =>
    have parts : ∀ part ∈ q.clauses.flatMap (parts []),
        part.1 = [] ∧ part.2.boost? = none ∧ part.2.path? = none := by
      intro part mem
      obtain ⟨clause, inside, mem⟩ := List.mem_flatMap.mp mem
      obtain ⟨predicate, rfl⟩ := each clause inside
      rw [parts_leaf, List.mem_singleton] at mem
      rw [mem]
      exact ⟨rfl, rfl, rfl⟩
    cases boost with
    | none => exact ⟨unboosted, rfl, _, parts_bool [] q, parts⟩
    | some boost => exact ⟨rfl, rfl, _, parts_bool [] _, parts⟩
  | related asks unboosted =>
    have asks' := (asked?_withBoost tree boost).trans asks
    refine ⟨?_, path?_of_asked asks', [], parts_of_asked [] asks', by simp⟩
    cases boost with
    | none => exact unboosted
    | some boost => exact boost?_boosted_of_asked asks boost

/-- Predicates as a group that has a boost: a single one has it itself, and of several that have to
match together it is the boolean query that has it. -/
inductive IsGroup (boost : Option Double) : List QueryTree → QueryTree → Prop where
  | single (leaf : QueryTree) : IsGroup boost [leaf] (leaf.withBoost boost)
  | several {leaves : List QueryTree} (several : leaves.length ≠ 1) :
      IsGroup boost leaves (.bool { BoolQuery.none with must := leaves, boost })

theorem IsGroup.flat {boost : Option Double} {leaves : List QueryTree} {group : QueryTree}
    (h : IsGroup boost leaves group) (simple : ∀ leaf ∈ leaves, leaf.Simple) :
    group.Flat boost := by
  cases h with
  | single leaf => exact (simple leaf (List.mem_singleton_self leaf)).flat_withBoost boost
  | several =>
    refine ⟨rfl, rfl, _, parts_bool [] _, ?_⟩
    intro part mem
    rw [BoolQuery.clauses_of_must] at mem
    obtain ⟨leaf, listed, inside⟩ := List.mem_flatMap.mp mem
    have flat := (simple leaf listed).flat_withBoost none
    obtain ⟨above, unmoved, -⟩ := flat.mem_parts inside
    exact ⟨above, flat.boost?_eq_none inside, unmoved⟩

end QueryTree

namespace Clause

variable {settings : Settings} {op : Operator} {tree : QueryTree}

theorem presence_simple {field : String} (h : presence field op = .ok tree) : tree.Simple := by
  unfold presence at h
  split at h <;> cases h
  · exact .leaf _
  · refine .bool rfl ?_
    intro clause mem
    rcases List.mem_pair.mp mem with rfl | rfl
    · exact ⟨_, rfl⟩
    · exact ⟨_, rfl⟩
  · exact .leaf _

theorem membership_simple {field : ResolvedField} {operand : Operand}
    (h : membership field op operand = .ok tree) : tree.Simple := by
  unfold membership at h
  split at h
  · cases h
  · obtain ⟨values, -, h⟩ := bind_eq_ok_iff.mp h
    split at h
    · unfold exactMembership at h
      split at h <;> cases h
      · exact .bool rfl (by simp [BoolQuery.clauses, BoolQuery.none])
      · exact .bool rfl (by simp [BoolQuery.clauses, BoolQuery.none])
    · unfold textMembership at h
      split at h
      · cases h
      · split at h <;> cases h
        · exact .leaf _
        · exact .leaf _

theorem buildAs_simple {family : ClauseFamily} {field : ResolvedField} {entry : Entry}
    {embedded : Except Fault (Option QueryTree)}
    (h : buildAs family settings field entry embedded = .ok tree) : tree.Simple := by
  cases family with
  | presence => exact presence_simple h
  | text =>
    rw [buildAs, text] at h
    split at h
    · obtain ⟨predicate, -, rfl⟩ := map_eq_ok_iff.mp h
      exact .leaf predicate
    · cases h
  | range =>
    obtain ⟨bounds, -, rfl⟩ := map_eq_ok_iff.mp h
    exact .leaf _
  | membership => exact membership_simple h
  | relationship =>
    rw [buildAs, relationship.eq_def] at h
    split at h
    · obtain ⟨found, -, h⟩ := bind_eq_ok_iff.mp h
      cases h
      exact .related rfl rfl
    · obtain ⟨found, -, h⟩ := bind_eq_ok_iff.mp h
      cases h
      exact .related rfl rfl
    · cases h

theorem build_simple {field : ResolvedField} {entry : Entry}
    {embedded : Except Fault (Option QueryTree)}
    (h : build settings field entry embedded = .ok tree) : tree.Simple := by
  obtain ⟨_, -, h⟩ := bind_eq_ok_iff.mp h
  split at h
  · exact buildAs_simple h
  · cases h

end Clause

namespace ResolvedField

/-! ## Moves to nested documents -/

/-- What stands above the predicates on a field: one move if it lives in nested documents, and
nothing otherwise. -/
def scope (field : ResolvedField) (scoreMode : ScoreMode) : Scope :=
  field.nestedPath.toList.map (·, scoreMode)

namespace Encloses

variable {field : ResolvedField} {scoreMode : ScoreMode} {inner tree : QueryTree}

theorem boostedParts (h : field.Encloses scoreMode inner tree) :
    tree.boostedParts = inner.boostedParts := by
  cases h with
  | unmoved => rfl
  | moved =>
    rw [QueryTree.boostedParts, QueryTree.parts_nested, QueryTree.parts_eq_map, List.map_cons,
      List.filter_cons_of_neg (by simp [QueryTree.boost?]), List.map_map]
    rfl

theorem predicates (h : field.Encloses scoreMode inner tree) :
    tree.predicates =
      inner.predicates.map fun part => (field.scope scoreMode ++ part.1, part.2) := by
  cases h with
  | unmoved flat => simp [scope, flat]
  | moved below =>
    rw [QueryTree.predicates, QueryTree.parts_nested, QueryTree.parts_eq_map,
      List.filter_cons_of_neg (by simp [QueryTree.isPredicate]), List.filter_map, scope, below]
    rfl

theorem moves (h : field.Encloses scoreMode inner tree) (unmoved : inner.moves = []) :
    tree.moves = if field.nestedPath.isSome then [([], tree)] else [] := by
  cases h with
  | unmoved flat => rw [flat, unmoved, Option.isSome_none, if_neg Bool.false_ne_true]
  | @moved path below =>
    have none : (inner.parts []).filter (fun part => part.2.path?.isSome) = [] := unmoved
    have same : (fun part : Scope × QueryTree => part.2.path?.isSome) ∘
        (fun part : Scope × QueryTree => ([] ++ [(path, scoreMode)] ++ part.1, part.2)) =
        fun part => part.2.path?.isSome := rfl
    rw [QueryTree.moves, QueryTree.parts_nested, QueryTree.parts_eq_map,
      List.filter_cons_of_pos rfl, List.filter_map, same, none, below]
    rfl

end Encloses

end ResolvedField

end SearchCriteria
