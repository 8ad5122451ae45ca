import SearchCriteria.Proofs.Simulation

/-!
# Queries without their envelopes

A query can be wrapped, as a whole or where it is embedded in an operand, and what is wrapped can be
wrapped again. `Query.unwrapped` takes all envelopes off, wherever they are, and does nothing else.
What is left is compiled to the same as the query, at any depth, and is nested as deep.

Envelopes are only ever around embedded queries, so it is for operands that there is something to
show: no operator looks at anything else in them.
-/

namespace SearchCriteria

mutual

/-- A query without the envelopes around it and around all queries that are embedded in it. -/
def Query.unwrapped : Query → Query
  | .criteria criteria => .criteria criteria.unwrapped
  | .text source => .text source
  | .native tree => .native tree
  | .wrapped query => query.unwrapped
  | .template id params => .template id params

def Criteria.unwrapped : Criteria → Criteria
  | ⟨chain⟩ => ⟨Criteria.unwrapChain chain⟩

def Criteria.unwrapChain : List Criterion → List Criterion
  | [] => []
  | ⟨field, joiner, negated, queryEntries, filterEntries, boost, nested⟩ :: rest =>
    ⟨field, joiner, negated, Criteria.unwrapEntries queryEntries,
      Criteria.unwrapEntries filterEntries, boost, Criteria.unwrapNested nested⟩
    :: Criteria.unwrapChain rest

def Criteria.unwrapEntries : List Entry → List Entry
  | [] => []
  | ⟨operator, operand⟩ :: rest => ⟨operator, operand.unwrapped⟩ :: Criteria.unwrapEntries rest

def Operand.unwrapped : Operand → Operand
  | .sequence items => .sequence (Operand.unwrapItems items)
  | .hasChild type query scoreMode innerHits => .hasChild type query.unwrapped scoreMode innerHits
  | .hasParent type query score innerHits => .hasParent type query.unwrapped score innerHits
  | operand => operand

def Operand.unwrapItems : List Operand → List Operand
  | [] => []
  | item :: rest => item.unwrapped :: Operand.unwrapItems rest

def Criteria.unwrapNested : List Criteria → List Criteria
  | [] => []
  | criteria :: rest => criteria.unwrapped :: Criteria.unwrapNested rest

end

def Entry.unwrapped (entry : Entry) : Entry :=
  { entry with operand := entry.operand.unwrapped }

def Criterion.unwrapped (criterion : Criterion) : Criterion :=
  { criterion with
    queryEntries := criterion.queryEntries.map Entry.unwrapped
    filterEntries := criterion.filterEntries.map Entry.unwrapped
    nested := criterion.nested.map Criteria.unwrapped }

namespace Criteria

theorem unwrapEntries_eq_map (entries : List Entry) :
    unwrapEntries entries = entries.map Entry.unwrapped := by
  induction entries with
  | nil => rw [unwrapEntries, List.map_nil]
  | cons entry rest ih =>
    obtain ⟨operator, operand⟩ := entry
    rw [unwrapEntries, ih, List.map_cons, Entry.unwrapped]

theorem unwrapNested_eq_map (list : List Criteria) :
    unwrapNested list = list.map unwrapped := by
  induction list with
  | nil => rw [unwrapNested, List.map_nil]
  | cons criteria rest ih => rw [unwrapNested, ih, List.map_cons]

theorem unwrapChain_eq_map (chain : List Criterion) :
    unwrapChain chain = chain.map Criterion.unwrapped := by
  induction chain with
  | nil => rw [unwrapChain, List.map_nil]
  | cons criterion rest ih =>
    obtain ⟨field, joiner, negated, queryEntries, filterEntries, boost, nested⟩ := criterion
    rw [unwrapChain, ih, List.map_cons, unwrapEntries_eq_map, unwrapEntries_eq_map,
      unwrapNested_eq_map, Criterion.unwrapped]

theorem chain_unwrapped (criteria : Criteria) :
    criteria.unwrapped.chain = criteria.chain.map Criterion.unwrapped := by
  obtain ⟨chain⟩ := criteria
  rw [unwrapped, unwrapChain_eq_map]

end Criteria

namespace Operand

theorem unwrapItems_eq_map (items : List Operand) :
    unwrapItems items = items.map unwrapped := by
  induction items with
  | nil => rw [unwrapItems, List.map_nil]
  | cons item rest ih => rw [unwrapItems, ih, List.map_cons]

@[simp] theorem unwrapped_sequence (items : List Operand) :
    (sequence items).unwrapped = .sequence (items.map unwrapped) := by
  rw [unwrapped, unwrapItems_eq_map]

variable (operand : Operand)

@[simp] theorem kind_unwrapped : operand.unwrapped.kind = operand.kind := by
  cases operand <;> rfl

@[simp] theorem count_unwrapped : operand.unwrapped.count = operand.count := by
  cases operand with
  | sequence items => rw [unwrapped_sequence, count, count, List.length_map]
  | _ => rfl

theorem embedded?_unwrapped :
    operand.unwrapped.embedded? = operand.embedded?.map Query.unwrapped := by
  cases operand <;> rfl

theorem compileEmbedded_unwrapped (compile : Query → Except Fault (Option QueryTree)) :
    operand.unwrapped.compileEmbedded compile =
      operand.compileEmbedded fun query => compile query.unwrapped := by
  cases operand <;> rfl

end Operand

namespace Criteria

variable {criteria : Criteria}

theorem forall_embeds_unwrapped_iff {holds : Query → Prop} :
    (∀ query, criteria.unwrapped.Embeds query → holds query) ↔
      ∀ query, criteria.Embeds query → holds query.unwrapped := by
  rw [forall_embeds_iff, forall_embeds_iff, chain_unwrapped]
  simp [Criterion.unwrapped, Entry.unwrapped, Operand.embedded?_unwrapped]

theorem forall_nests_unwrapped_iff {holds : Criteria → Prop} :
    (∀ nested, criteria.unwrapped.Nests nested → holds nested) ↔
      ∀ nested, criteria.Nests nested → holds nested.unwrapped := by
  rw [forall_nests_iff, forall_nests_iff, chain_unwrapped]
  simp [Criterion.unwrapped]

end Criteria

/-- Envelopes nest nothing. -/
theorem hereditary_nesting_unwrapped :
    Hereditary (fun query => query.unwrapped.nesting = query.nesting)
      (fun criteria => criteria.unwrapped.nesting = criteria.nesting) where
  step criteria nests embeds := by
    have same (limit : Nat) : criteria.unwrapped.nesting ≤ limit ↔ criteria.nesting ≤ limit := by
      rw [Criteria.nesting_le_iff, Criteria.nesting_le_iff, Criteria.forall_embeds_unwrapped_iff,
        Criteria.forall_nests_unwrapped_iff]
      apply and_congr
      · refine forall₂_congr fun query embedded => ?_
        rw [embeds query embedded]
      · refine forall₂_congr fun nested inside => ?_
        rw [nests nested inside]
    exact Nat.le_antisymm ((same _).mpr (Nat.le_refl _)) ((same _).mp (Nat.le_refl _))
  criteria criteria ih := by rw [Query.unwrapped, Query.nesting, Query.nesting, ih]
  wrapped query ih := by rw [Query.unwrapped, Query.nesting, ih]
  text source := by rw [Query.unwrapped]
  native tree := by rw [Query.unwrapped]
  template id params := by rw [Query.unwrapped]

namespace Clause

variable (field : String) (op : Operator)

theorem terms_unwrapped (name : String) (items : List Operand) :
    terms field name (items.map Operand.unwrapped) = terms field name items := by
  have each (operand : Operand) : term field name operand.unwrapped = term field name operand := by
    cases operand <;> rfl
  rw [terms, terms, List.mapM_map]
  exact congrArg (List.mapM · items) (funext each)

theorem bounds_unwrapped (operand : Operand) :
    bounds field op operand.unwrapped = bounds field op operand := by
  have single (operand : Operand) : bound field op operand.unwrapped = bound field op operand := by
    cases operand <;> rfl
  have each (operand : Operand) :
      optionalBound field op operand.unwrapped = optionalBound field op operand := by
    cases operand <;> rfl
  cases op with
  | less | lessEqual | greater | greaterEqual => simp only [bounds, single]
  | between =>
    cases operand with
    | sequence items =>
      rw [Operand.unwrapped_sequence]
      rcases items with _ | ⟨lower, _ | ⟨upper, _ | ⟨more, rest⟩⟩⟩
      · rfl
      · rfl
      · simp only [bounds, List.map_cons, List.map_nil, each]
      · rfl
    | _ => rfl
  | _ => rfl

/-- What an entry is built into does not depend on envelopes, given what its query compiles to. -/
theorem build_unwrapped (settings : Settings) (field : ResolvedField) (entry : Entry)
    (embedded : Except Fault (Option QueryTree)) :
    build settings field entry.unwrapped embedded = build settings field entry embedded := by
  obtain ⟨op, operand⟩ := entry
  -- Only sequences and relationships have something in them that can be in an envelope.
  cases operand with
  | sequence items =>
    rw [Entry.unwrapped, build, build]
    simp only [Operand.kind_unwrapped, Operand.count_unwrapped]
    cases op.family? with
    | none => rfl
    | some family =>
      cases family with
      | range => simp only [buildAs, range, bounds_unwrapped]
      | membership =>
        simp only [buildAs, membership, Operand.unwrapped_sequence, Operand.items?, terms_unwrapped]
      | presence => rfl
      | text => rfl
      | relationship => rfl
  | hasChild type query scoreMode innerHits =>
    rw [build_of_embedded rfl, build_of_embedded rfl]
    rfl
  | hasParent type query score innerHits =>
    rw [build_of_embedded rfl, build_of_embedded rfl]
    rfl
  | _ => rfl

end Clause

namespace GeoFilter

variable (field : String)

theorem distance_unwrapped (point length : Operand) :
    distance field point.unwrapped length.unwrapped = distance field point length := by
  have centre : centre field point.unwrapped = centre field point := by cases point <;> rfl
  have radius : radius field length.unwrapped = radius field length := by cases length <;> rfl
  rw [distance, distance, centre, radius]

theorem boundingBox_unwrapped (items : List Operand) :
    boundingBox field (items.map Operand.unwrapped) = boundingBox field items := by
  have each (operand : Operand) : corner field operand.unwrapped = corner field operand := by
    cases operand <;> rfl
  rcases items with _ | ⟨first, _ | ⟨second, _ | ⟨third, rest⟩⟩⟩
  · rfl
  · cases first <;> rfl
  · simp only [List.map_cons, List.map_nil, boundingBox, each]
  · simp [boundingBox]

theorem build_unwrapped (entry : Entry) : build field entry.unwrapped = build field entry := by
  obtain ⟨op, operand⟩ := entry
  rw [Entry.unwrapped, build, build]
  dsimp only
  rw [Operand.kind_unwrapped, Operand.count_unwrapped]
  refine congrArg (_ >>= ·) (funext fun _ => ?_)
  cases op with
  | within =>
    cases operand with
    | sequence items =>
      rw [Operand.unwrapped_sequence]
      rcases items with _ | ⟨point, _ | ⟨length, _ | ⟨more, rest⟩⟩⟩
      · rfl
      · rfl
      · exact distance_unwrapped field point length
      · rfl
    | _ => rfl
  | boundingBox =>
    cases operand with
    | sequence items =>
      rw [Operand.unwrapped_sequence]
      exact boundingBox_unwrapped field items
    | _ => rfl
  | shapeIntersects | shapeDisjoint | shapeWithin | shapeContains => cases operand <;> rfl
  | _ => rfl

end GeoFilter

namespace Filter

variable {resolve : Resolver} {maxDepth : Nat}

theorem predicates_unwrapped (field : Option Field) (entries : List Entry) :
    predicates resolve field (entries.map Entry.unwrapped) = predicates resolve field entries := by
  cases entries with
  | nil => rfl
  | cons entry rest =>
    cases field with
    | none => rfl
    | some field =>
      rw [predicates, predicates]
      · rw [List.mapM_map]
        refine congrArg (List.mapM · (entry :: rest)) (funext fun entry => ?_)
        rw [Function.comp_apply, GeoFilter.build_unwrapped]
      · exact List.cons_ne_nil entry rest
      · exact List.cons_ne_nil entry.unwrapped (rest.map Entry.unwrapped)

theorem ofCriteria_unwrapped (depth : Nat) (criteria : Criteria) :
    ofCriteria resolve maxDepth depth criteria.unwrapped =
      ofCriteria resolve maxDepth depth criteria := by
  induction criteria using Criteria.induction_on_nested generalizing depth with
  | step criteria ih =>
    apply ofCriteria_eq Iff.rfl
    rw [Criteria.chain_unwrapped]
    refine forall₂_map_self fun owner mem => ?_
    refine ⟨rfl, rfl, predicates_unwrapped owner.field owner.filterEntries, ?_⟩
    exact forall₂_map_self fun nested mem' => ih nested ⟨owner, mem, mem'⟩ (depth + 1)

end Filter

namespace Compiler

variable {c : Compiler} {depth : Nat}

/-- Where every query may be embedded, it does not count of which kind a query is. -/
theorem subQueryAt_unwrapped (every : c.embedding = .everyQuery) {query : Query}
    (h : c.queryAt depth query.unwrapped = c.queryAt depth query) :
    c.subQueryAt depth query.unwrapped = c.subQueryAt depth query := by
  simp only [subQueryAt, allowAt, every, reduceCtorEq, false_and, if_false, h]

/-- An entry is built into the same, in whatever envelopes its query is. -/
theorem entriesRelated_unwrapped (every : c.embedding = .everyQuery) {entry : Entry}
    (embedded : ∀ query, entry.operand.embedded? = some query →
      c.queryAt (depth + 1) query.unwrapped = c.queryAt (depth + 1) query) :
    EntriesRelated (fun _ x y => x = y) c c depth depth entry.unwrapped entry := by
  intro field
  rw [Clause.build_unwrapped, Entry.unwrapped, Operand.compileEmbedded_unwrapped]
  exact IsCongruence.eq.build c.settings field fun query found =>
    subQueryAt_unwrapped every (embedded query found)

/-- To compile a query without its envelopes is to compile the query. -/
theorem hereditary_unwrapped (every : c.embedding = .everyQuery) :
    Hereditary
      (fun query => ∀ depth, c.queryAt depth query.unwrapped = c.queryAt depth query)
      (fun criteria => ∀ depth, c.criteriaAt depth criteria.unwrapped = c.criteriaAt depth criteria)
    where
  step criteria nests embeds depth := by
    apply criteriaAt_related_of_corresponds .eq rfl Iff.rfl
    rw [Criteria.chain_unwrapped]
    refine forall₂_map_self fun owner mem => ⟨rfl, rfl, rfl, rfl, ?_, fun _ => ?_, ?_⟩
    · refine forall₂_map_self fun entry mem' => entriesRelated_unwrapped every ?_
      intro query embedded
      exact embeds query ⟨owner, mem, entry, mem', embedded⟩ (depth + 1)
    · rw [Criterion.firstOperator?, Criterion.unwrapped, ← List.map_append, List.head?_map,
        Option.map_map]
      rfl
    · exact forall₂_map_self fun nested mem' => nests nested ⟨owner, mem, mem'⟩ (depth + 1)
  criteria criteria ih depth := by
    rw [Query.unwrapped, queryAt, queryAt, ih, Filter.ofCriteria_unwrapped]
  wrapped query ih depth := by
    rw [Query.unwrapped, ih, queryAt]
  text source depth := by rw [Query.unwrapped]
  native tree depth := by rw [Query.unwrapped]
  template id params depth := by rw [Query.unwrapped]

end Compiler

end SearchCriteria
