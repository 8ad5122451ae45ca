import SearchCriteria.Proofs.Simulation

/-!
# The scoring half and the filtering half

The scoring tree of criteria and their filter are compiled from the same chain, each from its own
half of it. The scoring tree does not look at filtering entries, with one exception: where there is
no field for them they are at fault. The filter does not look at scoring entries nor at boosts.

So criteria are reduced to one half, on all levels but not in the queries that are embedded in
operands, and what is compiled from that half is what is compiled from the whole. Criteria with the
same half are compiled to the same result, whatever the other half is.
-/

namespace SearchCriteria

namespace Criteria

mutual

/-- Edits the criteria of all levels, those that are nested in a criterion before the criterion
itself. Embedded queries are left as they are. -/
def editAll (edit : Criterion → Criterion) : Criteria → Criteria
  | ⟨chain⟩ => ⟨editChain edit chain⟩

def editChain (edit : Criterion → Criterion) : List Criterion → List Criterion
  | [] => []
  | ⟨field, joiner, negated, queryEntries, filterEntries, boost, nested⟩ :: rest =>
    edit ⟨field, joiner, negated, queryEntries, filterEntries, boost, editNested edit nested⟩
      :: editChain edit rest

def editNested (edit : Criterion → Criterion) : List Criteria → List Criteria
  | [] => []
  | criteria :: rest => editAll edit criteria :: editNested edit rest

end

variable (edit : Criterion → Criterion)

theorem editNested_eq_map (list : List Criteria) :
    editNested edit list = list.map (editAll edit) := by
  induction list with
  | nil => rw [editNested, List.map_nil]
  | cons criteria rest ih => rw [editNested, ih, List.map_cons]

theorem editChain_eq_map (chain : List Criterion) :
    editChain edit chain = chain.map fun criterion =>
      edit { criterion with nested := criterion.nested.map (editAll edit) } := by
  induction chain with
  | nil => rw [editChain, List.map_nil]
  | cons criterion rest ih =>
    obtain ⟨field, joiner, negated, queryEntries, filterEntries, boost, nested⟩ := criterion
    rw [editChain, ih, List.map_cons, editNested_eq_map]

theorem chain_editAll (criteria : Criteria) :
    (criteria.editAll edit).chain = criteria.chain.map fun criterion =>
      edit { criterion with nested := criterion.nested.map (editAll edit) } := by
  obtain ⟨chain⟩ := criteria
  rw [editAll, editChain_eq_map]

end Criteria

/-- A criterion without its filtering entries. They stay where there is no field for them, since
they are at fault there. -/
def Criterion.scoringHalf (criterion : Criterion) : Criterion :=
  { criterion with
    filterEntries := if criterion.field.isSome then [] else criterion.filterEntries }

/-- A criterion without its scoring entries and its boost. -/
def Criterion.filteringHalf (criterion : Criterion) : Criterion :=
  { criterion with queryEntries := [], boost := none }

/-- Criteria without the filtering entries on fields, on all levels. -/
def Criteria.scoringHalf (criteria : Criteria) : Criteria :=
  criteria.editAll Criterion.scoringHalf

/-- Criteria without scoring entries and boosts, on all levels. -/
def Criteria.filteringHalf (criteria : Criteria) : Criteria :=
  criteria.editAll Criterion.filteringHalf

namespace Filter

variable {resolve : Resolver} {maxDepth : Nat}

/-- The filter of criteria is compiled from their filtering half. -/
theorem ofCriteria_filteringHalf (depth : Nat) (criteria : Criteria) :
    ofCriteria resolve maxDepth depth criteria.filteringHalf =
      ofCriteria resolve maxDepth depth criteria := by
  induction criteria using Criteria.induction_on_nested generalizing depth with
  | step criteria ih =>
    apply ofCriteria_eq Iff.rfl
    rw [Criteria.filteringHalf, Criteria.chain_editAll]
    refine forall₂_map_self fun owner mem => ⟨rfl, rfl, rfl, ?_⟩
    exact forall₂_map_self fun nested mem' => ih nested ⟨owner, mem, mem'⟩ (depth + 1)

end Filter

namespace Compiler

variable {c : Compiler}

/-- The scoring tree of criteria is compiled from their scoring half. -/
theorem criteriaAt_scoringHalf (depth : Nat) (criteria : Criteria) :
    c.criteriaAt depth criteria.scoringHalf = c.criteriaAt depth criteria := by
  induction criteria using Criteria.induction_on_nested generalizing depth with
  | step criteria ih =>
    apply criteriaAt_related_of_corresponds .eq rfl Iff.rfl
    rw [Criteria.scoringHalf, Criteria.chain_editAll]
    refine forall₂_map_self fun owner mem => ?_
    refine ⟨rfl, rfl, rfl, rfl, List.forall₂_same.mpr fun _ _ _ => rfl, fun bare => ?_, ?_⟩
    · -- Without a field the filtering entries are kept, and so is the one to blame.
      have kept : owner.field = none := bare
      simp [Criterion.scoringHalf, Criterion.firstOperator?, kept]
    · exact forall₂_map_self fun nested mem' => ih nested ⟨owner, mem, mem'⟩ (depth + 1)

/-- Neither compilation looks at the half of the other: criteria that differ only in filtering
entries on fields have the same scoring tree or the same fault, and criteria that differ only in
scoring entries and boosts have the same filter or the same fault. -/
theorem halves_do_not_interfere (c : Compiler) (one other : Criteria) :
    (one.scoringHalf = other.scoringHalf → c.compile one = c.compile other) ∧
      (one.filteringHalf = other.filteringHalf → c.compileFilter one = c.compileFilter other) := by
  constructor
  · intro same
    calc c.compile one
        = c.compile one.scoringHalf := (criteriaAt_scoringHalf 0 one).symm
      _ = c.compile other.scoringHalf := by rw [same]
      _ = c.compile other := criteriaAt_scoringHalf 0 other
  · intro same
    calc c.compileFilter one
        = c.compileFilter one.filteringHalf := (Filter.ofCriteria_filteringHalf 0 one).symm
      _ = c.compileFilter other.filteringHalf := by rw [same]
      _ = c.compileFilter other := Filter.ofCriteria_filteringHalf 0 other

/-- Criteria that hold, one level down, a field with entries of both kinds. -/
def onBelow (queryEntries filterEntries : List Entry) (boost : Option Double) : Criteria :=
  let owned := { Criterion.on (.named "a") with queryEntries, filterEntries, boost }
  ⟨[{ Criterion.blank with joiner := .or, nested := [⟨[owned]⟩] }]⟩

/-- An entry of one kind that is refused leaves the tree of the other kind as it is. -/
theorem halves_do_not_interfere_refused :
    let present : Entry := ⟨.present, .null⟩
    let corner : GeoPoint := ⟨.zero false, .zero false⟩
    let boxed : Entry := ⟨.boundingBox, .geoBox ⟨corner, corner⟩⟩
    let refused : Entry := ⟨.within, .null⟩
    standard.compile (onBelow [present] [refused] none) =
        standard.compile (onBelow [present] [boxed] none) ∧
      standard.compileFilter (onBelow [refused] [boxed] none) =
        standard.compileFilter (onBelow [present] [boxed] (some (.zero true))) ∧
      standard.compile (onBelow [refused] [boxed] none) =
        .error (.invalidArgument "a" "WITHIN" (.wrongKind [.sequence] .null)) := by
  intro present corner boxed refused
  have scoring := (halves_do_not_interfere standard (onBelow [present] [refused] none)
    (onBelow [present] [boxed] none)).1 rfl
  have filtering := (halves_do_not_interfere standard (onBelow [refused] [boxed] none)
    (onBelow [present] [boxed] (some (.zero true)))).2 rfl
  exact ⟨scoring, filtering, rfl⟩

end Compiler

end SearchCriteria
