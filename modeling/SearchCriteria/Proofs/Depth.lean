import SearchCriteria.Proofs.FilterCompilation
import SearchCriteria.Proofs.Refusal

/-!
# The limit on the depth

The settings limit how deep criteria and embedded queries may be nested. The limit is exact and has no
other effect: a query that fits under it compiles to what it compiles to under any higher limit, and
so is never refused for its depth, and a query that does not fit is refused. A wrapped query costs no
depth, and the filter of an embedded query counts from the start again.

Two compilations of one query, under a limit and under a higher one, are compared part by part. What
is needed of each part is `FitsIff`, and it goes from the parts to the whole as binding does.
-/

namespace SearchCriteria

/-- What a strict limit and a looser one make of something that fits under the strict one exactly if
`fits`: the same, which is no fault about depth, if it fits, and a fault of the strict one if not. -/
structure FitsIff {α : Type} (fits : Prop) (strict loose : Except Fault α) : Prop where
  same : fits → loose = strict
  notTooDeep : fits → ∀ fault, strict = .error fault → fault.isTooDeep = false
  refused : ¬ fits → ∃ fault, strict = .error fault

namespace FitsIff

variable {α β : Type} {fits fits' : Prop} {strict loose : Except Fault α}

theorem congr (h : FitsIff fits strict loose) (iff : fits ↔ fits') : FitsIff fits' strict loose where
  same present := h.same (iff.mpr present)
  notTooDeep present := h.notTooDeep (iff.mpr present)
  refused absent := h.refused fun present => absent (iff.mp present)

/-- What the limits have no say in fits. -/
theorem of_eq (present : fits)
    (notTooDeep : ∀ fault, strict = .error fault → fault.isTooDeep = false) :
    FitsIff fits strict strict :=
  ⟨fun _ => rfl, fun _ => notTooDeep, fun absent => absurd present absent⟩

theorem ok (present : fits) (a : α) : FitsIff fits (.ok a) (.ok a) := by
  apply of_eq present
  intro fault failed
  cases failed

/-- What is refused for another reason may fit or not. -/
theorem error {fault : Fault} (h : fault.isTooDeep = false) :
    FitsIff fits (.error fault : Except Fault α) (.error fault) where
  same _ := rfl
  notTooDeep _ other same := by
    cases same
    exact h
  refused _ := ⟨fault, rfl⟩

/-- What is compiled only down to a limit fits if it lies no deeper and fits otherwise. -/
theorem limited {depth limit more : Nat} {strictFault looseFault : Fault} (le : limit ≤ more)
    (h : depth ≤ limit → FitsIff fits strict loose) :
    FitsIff (depth ≤ limit ∧ fits) (if limit < depth then .error strictFault else strict)
      (if more < depth then .error looseFault else loose) := by
  by_cases allowed : depth ≤ limit
  · rw [if_neg (Nat.not_lt.mpr allowed), if_neg (Nat.not_lt.mpr (Nat.le_trans allowed le))]
    exact (h allowed).congr (and_iff_right allowed).symm
  · rw [if_pos (Nat.not_le.mp allowed)]
    exact ⟨fun present => absurd present.1 allowed, fun present => absurd present.1 allowed,
      fun _ => ⟨strictFault, rfl⟩⟩

/-- Two steps fit if both of them do. -/
theorem bind {first second : α → Except Fault β} (h : FitsIff fits strict loose)
    (h' : fits → ∀ a, FitsIff fits' (first a) (second a)) :
    FitsIff (fits ∧ fits') (strict >>= first) (loose >>= second) where
  same := by
    rintro ⟨present, present'⟩
    rw [h.same present]
    cases strict with
    | error fault => rfl
    | ok a => exact (h' present a).same present'
  notTooDeep := by
    rintro ⟨present, present'⟩ fault failed
    rcases bind_eq_error_iff.mp failed with failed | ⟨a, -, failed⟩
    · exact h.notTooDeep present fault failed
    · exact (h' present a).notTooDeep present' fault failed
  refused := by
    intro absent
    cases strict with
    | error fault => exact ⟨fault, rfl⟩
    | ok a =>
      by_cases present : fits
      · exact (h' present a).refused fun present' => absent ⟨present, present'⟩
      · obtain ⟨fault, failed⟩ := h.refused present
        cases failed

theorem map (h : FitsIff fits strict loose) (f : α → β) :
    FitsIff fits (strict.map f) (loose.map f) where
  same present := congrArg (Except.map f) (h.same present)
  notTooDeep present fault failed := h.notTooDeep present fault (map_eq_error_iff.mp failed)
  refused absent := by
    obtain ⟨fault, failed⟩ := h.refused absent
    exact ⟨fault, map_eq_error_iff.mpr failed⟩

theorem bind_pure (h : FitsIff fits strict loose) (f : α → β) :
    FitsIff fits (do let a ← strict; pure (f a)) (do let a ← loose; pure (f a)) := by
  have mapped (x : Except Fault α) : (do let a ← x; pure (f a)) = x.map f := by cases x <;> rfl
  rw [mapped, mapped]
  exact h.map f

/-- A list that is compiled item by item fits if each of its items does. `cons` says so of an item
and what follows it. -/
theorem list {ι : Type} {fits : ι → Prop} {strict loose : List ι → Except Fault (List β)}
    (nil : strict [] = .ok []) (nil' : loose [] = .ok []) {items : List ι}
    (cons : ∀ item ∈ items, ∀ rest,
      FitsIff (∀ other ∈ rest, fits other) (strict rest) (loose rest) →
        FitsIff (fits item ∧ ∀ other ∈ rest, fits other) (strict (item :: rest))
          (loose (item :: rest))) :
    FitsIff (∀ item ∈ items, fits item) (strict items) (loose items) := by
  induction items with
  | nil =>
    rw [nil, nil']
    exact ok (List.forall_mem_nil fits) []
  | cons item rest ih =>
    have others := ih fun other mem => cons other (List.mem_cons_of_mem item mem)
    exact (cons item List.mem_cons_self rest others).congr List.forall_mem_cons.symm

end FitsIff

/-- A limit on the depth is exact for what is nested so deep. Where there is room, the limit has no say
and nothing is refused for its depth; where there is none, everything is refused. -/
structure IsExactLimit {α : Type} (nesting : Nat) (run : Nat → Except Fault α) : Prop where
  same : ∀ limit more, nesting ≤ limit → limit ≤ more → run more = run limit
  notTooDeep : ∀ limit, nesting ≤ limit → ∀ fault, run limit = .error fault →
    fault.isTooDeep = false
  refused : ∀ limit, limit < nesting → ∃ fault, run limit = .error fault

theorem IsExactLimit.of_fits {α : Type} {nesting : Nat} {run : Nat → Except Fault α}
    (h : ∀ limit more, limit ≤ more → FitsIff (nesting ≤ limit) (run limit) (run more)) :
    IsExactLimit nesting run where
  same limit more room le := (h limit more le).same room
  notTooDeep limit := (h limit limit (Nat.le_refl limit)).notTooDeep
  refused limit deep := (h limit limit (Nat.le_refl limit)).refused (Nat.not_le.mpr deep)

namespace Filter

variable {resolve : Resolver} {limit more depth : Nat}

theorem predicates_fault {field : Option Field} {entries : List Entry} {fault : Fault}
    (h : predicates resolve field entries = .error fault) : fault.isTooDeep = false := by
  unfold predicates at h
  split at h
  · cases h
  · cases h
    rfl
  · obtain ⟨entry, -, refused⟩ := mapM_eq_error h
    rcases GeoFilter.build_fault (map_eq_error_iff.mp refused) with about | ⟨-, rfl⟩ | ⟨-, rfl⟩
    · exact about.isTooDeep_eq_false
    · rfl
    · rfl

theorem ofNested_fits {list : List Criteria} {fits : Criteria → Prop}
    (below : ∀ nested ∈ list, FitsIff (fits nested) (ofCriteria resolve limit (depth + 1) nested)
      (ofCriteria resolve more (depth + 1) nested)) :
    FitsIff (∀ nested ∈ list, fits nested)
      (ofNested resolve limit depth list) (ofNested resolve more depth list) := by
  refine .list (by rw [ofNested]) (by rw [ofNested]) fun nested mem rest others => ?_
  rw [ofNested, ofNested]
  exact (below nested mem).bind fun _ filter => others.bind_pure _

theorem ofChain_fits {chain : List Criterion} {fits : Criteria → Prop}
    (below : ∀ owner ∈ chain, ∀ nested ∈ owner.nested, FitsIff (fits nested)
      (ofCriteria resolve limit (depth + 1) nested) (ofCriteria resolve more (depth + 1) nested)) :
    FitsIff (∀ owner ∈ chain, ∀ nested ∈ owner.nested, fits nested)
      (ofChain resolve limit depth chain) (ofChain resolve more depth chain) := by
  refine .list (by rw [ofChain]) (by rw [ofChain]) fun owner mem rest others => ?_
  have nested := ofNested_fits (below owner mem)
  obtain ⟨field, joiner, negated, queryEntries, filterEntries, boost, nested⟩ := owner
  rw [ofChain, ofChain]
  have own : FitsIff True (predicates resolve field filterEntries)
      (predicates resolve field filterEntries) := .of_eq trivial fun _ => predicates_fault
  exact (own.bind fun _ _ => nested.bind fun _ _ => others.bind_pure _).congr (iff_of_eq (true_and _))

/-- A filter is limited by the levels of nested criteria and by nothing else. -/
theorem ofCriteria_fits (resolve : Resolver) (le : limit ≤ more) (depth : Nat)
    (criteria : Criteria) :
    FitsIff (depth + criteria.levels ≤ limit) (ofCriteria resolve limit depth criteria)
      (ofCriteria resolve more depth criteria) := by
  induction criteria using Criteria.induction_on_nested generalizing depth with
  | step criteria ih =>
    have below := Criteria.forall_nests_iff.mp fun nested nests => ih nested nests (depth + 1)
    rw [Criteria.depth_add_levels_le_iff, Criteria.forall_nests_iff]
    obtain ⟨chain⟩ := criteria
    rw [ofCriteria, ofCriteria]
    exact .limited le fun _ => (ofChain_fits below).map together

end Filter

namespace Clause

/-- A scoring entry fits if the query that is embedded in it does. -/
theorem build_fits (settings : Settings) (field : ResolvedField) {entry : Entry} {fits : Query → Prop}
    {strict loose : Query → Except Fault (Option QueryTree)}
    (embedded : ∀ query, entry.operand.embedded? = some query →
      FitsIff (fits query) (strict query) (loose query)) :
    FitsIff (∀ query, entry.operand.embedded? = some query → fits query)
      (build settings field entry (entry.operand.compileEmbedded strict))
      (build settings field entry (entry.operand.compileEmbedded loose)) := by
  cases found : entry.operand.embedded? with
  | none =>
    rw [Operand.compileEmbedded, Operand.compileEmbedded, found]
    apply FitsIff.of_eq
    · intro query some
      cases some
    · intro fault refused
      rcases build_fault refused with ⟨⟨_, some⟩, -⟩ | about | ⟨-, rfl⟩
      · cases found.symm.trans some
      · exact about.isTooDeep_eq_false
      · rfl
  | some query =>
    rw [build_compileEmbedded found, build_compileEmbedded found]
    have check : FitsIff True
        (entry.operator.check field.name entry.operand.kind entry.operand.count)
        (entry.operator.check field.name entry.operand.kind entry.operand.count) :=
      .of_eq trivial fun _ refused => (Operator.check_fault refused).isTooDeep_eq_false
    refine (check.bind fun _ _ => (embedded query found).map _).congr ?_
    simp

end Clause

namespace Compiler

/-- The same compiler with another limit on the depth. -/
def withLimit (c : Compiler) (limit : Nat) : Compiler :=
  { c with settings := { c.settings with maxDepth := limit } }

variable {c : Compiler} {limit more depth : Nat}

/-- The limit has no say in what a single entry is built into. -/
theorem build_withLimit (field : ResolvedField) (entry : Entry)
    (embedded : Except Fault (Option QueryTree)) :
    Clause.build (c.withLimit limit).settings field entry embedded =
      Clause.build c.settings field entry embedded := rfl

theorem allowAt_fits (le : limit ≤ more) (kind : QueryKind) :
    FitsIff (depth ≤ limit) ((c.withLimit limit).allowAt depth kind)
      ((c.withLimit more).allowAt depth kind) := by
  have kinds : FitsIff True
      (if c.embedding = .criteriaOnly ∧ kind ≠ .criteria then .error (.unsupportedQuery kind)
        else .ok () : Except Fault Unit)
      (if c.embedding = .criteriaOnly ∧ kind ≠ .criteria then .error (.unsupportedQuery kind)
        else .ok ()) := by
    split
    · exact .error rfl
    · exact .ok trivial ()
  exact (FitsIff.limited le fun _ => kinds).congr (iff_of_eq (and_true _))

theorem subQueryAt_fits (le : limit ≤ more) {query : Query}
    (h : depth ≤ limit → FitsIff (depth + query.nesting ≤ limit)
      ((c.withLimit limit).queryAt depth query) ((c.withLimit more).queryAt depth query)) :
    FitsIff (depth + query.nesting ≤ limit) ((c.withLimit limit).subQueryAt depth query)
      ((c.withLimit more).subQueryAt depth query) := by
  refine ((allowAt_fits le query.kind).bind fun allowed _ => h allowed).congr ?_
  omega

theorem leavesAt_fits {field : ResolvedField} {entries : List Entry} {fits : Query → Prop}
    (embedded : ∀ entry ∈ entries, ∀ query, entry.operand.embedded? = some query →
      FitsIff (fits query) ((c.withLimit limit).subQueryAt (depth + 1) query)
        ((c.withLimit more).subQueryAt (depth + 1) query)) :
    FitsIff (∀ entry ∈ entries, ∀ query, entry.operand.embedded? = some query → fits query)
      ((c.withLimit limit).leavesAt depth field entries)
      ((c.withLimit more).leavesAt depth field entries) := by
  refine .list (by rw [leavesAt]) (by rw [leavesAt]) fun entry mem rest others => ?_
  have leaf := Clause.build_fits c.settings field (embedded entry mem)
  rw [leavesAt_cons, leavesAt_cons, build_withLimit, build_withLimit]
  exact leaf.bind fun _ _ => others.bind_pure _

theorem fragmentAt_fits {criterion : Criterion} {fits : Query → Prop}
    (embedded : ∀ entry ∈ criterion.queryEntries, ∀ query, entry.operand.embedded? = some query →
      FitsIff (fits query) ((c.withLimit limit).subQueryAt (depth + 1) query)
        ((c.withLimit more).subQueryAt (depth + 1) query)) :
    FitsIff (∀ entry ∈ criterion.queryEntries, ∀ query, entry.operand.embedded? = some query →
        fits query)
      ((c.withLimit limit).fragmentAt depth criterion)
      ((c.withLimit more).fragmentAt depth criterion) := by
  obtain ⟨field, joiner, negated, queryEntries, filterEntries, boost, nested⟩ := criterion
  cases field with
  | none =>
    -- Entries without a field are refused unseen, whatever they embed.
    rw [fragmentAt, fragmentAt]
    cases queryEntries with
    | nil => cases filterEntries with
      | nil => exact .ok (List.forall_mem_nil _) none
      | cons entry rest => exact .error rfl
    | cons entry rest => exact .error rfl
  | some field =>
    cases queryEntries with
    | nil =>
      rw [fragmentAt, fragmentAt]
      exact .ok (List.forall_mem_nil _) none
    | cons entry rest =>
      rw [fragmentAt, fragmentAt]
      · exact (leavesAt_fits embedded).bind_pure _
      · exact List.cons_ne_nil entry rest
      · exact List.cons_ne_nil entry rest

theorem fragmentsAt_fits {chain : List Criterion} {fits : Query → Prop}
    (embedded : ∀ owner ∈ chain, ∀ entry ∈ owner.queryEntries, ∀ query,
      entry.operand.embedded? = some query →
      FitsIff (fits query) ((c.withLimit limit).subQueryAt (depth + 1) query)
        ((c.withLimit more).subQueryAt (depth + 1) query)) :
    FitsIff (∀ owner ∈ chain, ∀ entry ∈ owner.queryEntries, ∀ query,
        entry.operand.embedded? = some query → fits query)
      ((c.withLimit limit).fragmentsAt depth chain) ((c.withLimit more).fragmentsAt depth chain) := by
  refine .list (by rw [fragmentsAt]) (by rw [fragmentsAt]) fun owner mem rest others => ?_
  rw [fragmentsAt, fragmentsAt]
  exact (fragmentAt_fits (embedded owner mem)).bind fun _ _ => others.bind_pure _

theorem nestedListAt_fits {list : List Criteria} {fits : Criteria → Prop}
    (below : ∀ nested ∈ list, FitsIff (fits nested)
      ((c.withLimit limit).criteriaAt (depth + 1) nested)
      ((c.withLimit more).criteriaAt (depth + 1) nested)) :
    FitsIff (∀ nested ∈ list, fits nested) ((c.withLimit limit).nestedListAt depth list)
      ((c.withLimit more).nestedListAt depth list) := by
  refine .list (by rw [nestedListAt]) (by rw [nestedListAt]) fun nested mem rest others => ?_
  rw [nestedListAt, nestedListAt]
  exact (below nested mem).bind fun _ _ => others.bind_pure _

theorem nestedAt_fits {chain : List Criterion} {fits : Criteria → Prop}
    (below : ∀ owner ∈ chain, ∀ nested ∈ owner.nested, FitsIff (fits nested)
      ((c.withLimit limit).criteriaAt (depth + 1) nested)
      ((c.withLimit more).criteriaAt (depth + 1) nested)) :
    FitsIff (∀ owner ∈ chain, ∀ nested ∈ owner.nested, fits nested)
      ((c.withLimit limit).nestedAt depth chain) ((c.withLimit more).nestedAt depth chain) := by
  refine .list (by rw [nestedAt]) (by rw [nestedAt]) fun owner mem rest others => ?_
  have own := nestedListAt_fits (below owner mem)
  obtain ⟨field, joiner, negated, queryEntries, filterEntries, boost, nested⟩ := owner
  rw [nestedAt, nestedAt]
  exact own.bind fun _ _ => others.bind_pure _

/-- A query is limited by its nesting and by nothing else, wherever it stands above the limit, and so
are criteria, wherever they stand. -/
theorem hereditary_fits (c : Compiler) (le : limit ≤ more) :
    Hereditary
      (fun query => ∀ depth ≤ limit, FitsIff (depth + query.nesting ≤ limit)
        ((c.withLimit limit).queryAt depth query) ((c.withLimit more).queryAt depth query))
      (fun criteria => ∀ depth, FitsIff (depth + criteria.nesting ≤ limit)
        ((c.withLimit limit).criteriaAt depth criteria)
        ((c.withLimit more).criteriaAt depth criteria)) where
  step criteria nests embeds depth := by
    have embedded := Criteria.forall_embeds_iff.mp fun query embedded =>
      subQueryAt_fits le (embeds query embedded (depth + 1))
    have below := Criteria.forall_nests_iff.mp fun nested inside => nests nested inside (depth + 1)
    rw [Criteria.depth_add_nesting_le_iff, Criteria.forall_embeds_iff, Criteria.forall_nests_iff]
    obtain ⟨chain⟩ := criteria
    rw [criteriaAt, criteriaAt]
    exact .limited le fun _ =>
      (fragmentsAt_fits embedded).bind fun _ _ => (nestedAt_fits below).bind_pure _
  criteria criteria ih depth allowed := by
    -- The filter starts again from the top, so there is room for it as soon as there is for the rest.
    have filter : FitsIff (0 + criteria.levels ≤ limit) _ _ :=
      Filter.ofCriteria_fits c.resolve le 0 criteria
    rw [queryAt, queryAt]
    refine ((ih depth).bind fun _ _ => filter.bind_pure _).congr ?_
    have := criteria.levels_le_nesting
    rw [Query.nesting]
    omega
  wrapped query ih depth allowed := by
    rw [queryAt, queryAt, Query.nesting]
    exact ih depth allowed
  text source depth allowed := by
    rw [queryAt, queryAt]
    exact .ok allowed _
  native tree depth allowed := by
    rw [queryAt, queryAt]
    exact .ok allowed _
  template id params depth allowed := by
    rw [queryAt, queryAt]
    exact .error rfl

/-- The limit on the depth is exact and nothing else, for every way to compile. What is dispatched is
the normalized query, so it is that query's nesting that counts. -/
theorem depth_limit_exact (c : Compiler) :
    (∀ query normalize, IsExactLimit (normalize query).nesting
        fun limit => (c.withLimit limit).dispatch query normalize) ∧
      ∀ criteria,
        IsExactLimit criteria.nesting (fun limit => (c.withLimit limit).compile criteria) ∧
        IsExactLimit criteria.nesting (fun limit => (c.withLimit limit).build criteria) ∧
        IsExactLimit criteria.levels (fun limit => (c.withLimit limit).compileFilter criteria) := by
  have dispatched (query : Query) :
      IsExactLimit query.nesting fun limit => (c.withLimit limit).queryAt 0 query :=
    .of_fits fun limit more le =>
      ((c.hereditary_fits le).holds_query query 0 (Nat.zero_le limit)).congr
        (by rw [Nat.zero_add])
  refine ⟨fun query normalize => dispatched (normalize query), fun criteria => ⟨?_, ?_, ?_⟩⟩
  · exact .of_fits fun limit more le =>
      ((c.hereditary_fits le).holds_criteria criteria 0).congr (by rw [Nat.zero_add])
  · have built := dispatched (.criteria criteria)
    rw [Query.nesting] at built
    exact built
  · exact .of_fits fun limit more le =>
      (Filter.ofCriteria_fits c.resolve le 0 criteria).congr (by rw [Nat.zero_add])

/-- A query for children is one level, whether it is wrapped or not, and what is nested in its
criteria is another. -/
example :
    let children : Criteria := ⟨[{ Criterion.blank with nested := [.empty] }]⟩
    let query : Query := .criteria ⟨[{ Criterion.on (.named "a") with
      queryEntries := [⟨.hasChild, .hasChild "c" (.wrapped (.criteria children)) none none⟩] }]⟩
    query.nesting = 2 ∧ ((standard.withLimit 2).dispatch query id).isOk = true ∧
      ((standard.withLimit 1).dispatch query id).isOk = false := by
  decide

end Compiler

end SearchCriteria
