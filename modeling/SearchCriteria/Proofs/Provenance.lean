import SearchCriteria.Proofs.FilterCompilation
import SearchCriteria.Proofs.Occurrence
import SearchCriteria.Proofs.Refusal

/-!
# Where faults come from

A fault points to what is wrong with the query. Apart from the limit on the depth there are two
things that can be wrong. A query stands where its kind cannot be compiled, or there is a criterion
that is to blame: it has no field for its entries, an entry stands in the context of the other
operators, a distance has a unit without a code, or an operand does not suit its operator. In the
last case the fault names the field as it is resolved and the operator of the entry, however deep
the criterion is nested or embedded and whatever passes the fault on.

Nothing of this is a fault of the settings, which have been checked before.
-/

namespace SearchCriteria

/-- The context that is named if an operator stands where those of another context belong. -/
def OperatorContext.place : OperatorContext → Context
  | .query => .query
  | .filter => .filter

namespace Criterion

/-- The entries of a criterion that are evaluated in a context. -/
def entriesIn (criterion : Criterion) : OperatorContext → List Entry
  | .query => criterion.queryEntries
  | .filter => criterion.filterEntries

/-- A fault is due to an entry of a criterion in a context. -/
inductive Blamed (resolve : Resolver) (criterion : Criterion) (context : OperatorContext) :
    Fault → Prop where
  | nameless {entry : Entry} (stands : entry ∈ criterion.entriesIn context)
      (nameless : criterion.field = none) :
      Blamed resolve criterion context (.missingField entry.operator.label)
  | misplaced {entry : Entry} (stands : entry ∈ criterion.entriesIn context)
      (elsewhere : entry.operator.context ≠ context) :
      Blamed resolve criterion context
        (.unsupportedOperator entry.operator.label context.place)
  | neutralUnit {entry : Entry} (stands : entry ∈ criterion.entriesIn context)
      (neutral : entry.HasNeutralUnit) :
      Blamed resolve criterion context
        (.unsupportedOperator DistanceUnit.neutral.label .distanceUnit)
  | operand {entry : Entry} {field : Field} (stands : entry ∈ criterion.entriesIn context)
      (named : criterion.field = some field) (problem : OperandProblem) :
      Blamed resolve criterion context
        (.invalidArgument (resolve field).name entry.operator.label problem)

variable {resolve : Resolver} {criterion : Criterion} {context : OperatorContext} {fault : Fault}

theorem Blamed.isQueryFault (h : criterion.Blamed resolve context fault) :
    fault.isQueryFault = true := by
  cases h <;> rfl

theorem Blamed.of_aboutOperand {entry : Entry} {field : Field}
    (stands : entry ∈ criterion.entriesIn context) (named : criterion.field = some field)
    (h : fault.AboutOperand (resolve field).name entry.operator) :
    criterion.Blamed resolve context fault := by
  obtain ⟨problem, rfl⟩ := h
  exact .operand stands named problem

end Criterion

/-- A criterion stands in criteria, at whatever level, in nested criteria or in embedded ones. -/
def Criteria.Involves (criteria : Criteria) (criterion : Criterion) : Prop :=
  ∃ level inner, criteria.Reaches level inner ∧ criterion ∈ inner.chain

/-- A criterion stands in the criteria that a query consists of. -/
def Query.Involves (query : Query) (criterion : Criterion) : Prop :=
  ∃ criteria, query.criteria? = some criteria ∧ criteria.Involves criterion

theorem Criteria.Nests.involves {criteria nested : Criteria} {criterion : Criterion}
    (h : criteria.Nests nested) (inside : nested.Involves criterion) :
    criteria.Involves criterion := by
  obtain ⟨level, inner, reached, mem⟩ := inside
  exact ⟨level + 1, inner, .nested h reached, mem⟩

theorem Criteria.Embeds.involves {criteria : Criteria} {query : Query} {criterion : Criterion}
    (h : criteria.Embeds query) (inside : query.Involves criterion) :
    criteria.Involves criterion := by
  obtain ⟨asked, consists, level, inner, reached, mem⟩ := inside
  exact ⟨level + 1, inner, .embedded h consists reached, mem⟩

/-- A query occurs in another one: it is that query, or it stands in its envelope, or it occurs in a
query that is embedded in its criteria, at whatever level. -/
inductive Query.Occurs (part : Query) : Query → Prop where
  | itself : Occurs part part
  | wrapped {query : Query} (inside : Occurs part query) : Occurs part (.wrapped query)
  | embedded {criteria : Criteria} {query : Query} (embeds : criteria.EmbedsDeep query)
      (inside : Occurs part query) : Occurs part (.criteria criteria)

namespace Compiler

/-- A query of a kind that cannot be compiled at all, or cannot be embedded. -/
def Refuses (c : Compiler) (kind : QueryKind) : Prop :=
  kind = .template ∨ c.embedding = .criteriaOnly ∧ kind ≠ .criteria

/-- What a query can be refused with. -/
inductive Explains (c : Compiler) (query : Query) : Fault → Prop where
  | criteriaTooDeep : Explains c query (.criteriaTooDeep c.settings.maxDepth)
  | queriesTooDeep : Explains c query (.queriesTooDeep c.settings.maxDepth)
  | unsupported {part : Query} (occurs : part.Occurs query) (refused : c.Refuses part.kind) :
      Explains c query (.unsupportedQuery part.kind)
  | blamed {criterion : Criterion} {context : OperatorContext} {fault : Fault}
      (involves : query.Involves criterion)
      (blamed : criterion.Blamed c.resolve context fault) : Explains c query fault

variable {c : Compiler} {depth : Nat} {criteria : Criteria} {criterion : Criterion} {fault : Fault}

namespace Explains

theorem isQueryFault {query : Query} (h : c.Explains query fault) : fault.isQueryFault = true := by
  cases h with
  | criteriaTooDeep => rfl
  | queriesTooDeep => rfl
  | unsupported => rfl
  | blamed _ blamed => exact blamed.isQueryFault

theorem of_blamed {context : OperatorContext} (involves : criteria.Involves criterion)
    (blamed : criterion.Blamed c.resolve context fault) : c.Explains (.criteria criteria) fault :=
  .blamed ⟨criteria, rfl, involves⟩ blamed

/-- What explains a fault of nested criteria explains it for the whole. -/
theorem of_nests {nested : Criteria} (nests : criteria.Nests nested)
    (h : c.Explains (.criteria nested) fault) : c.Explains (.criteria criteria) fault := by
  cases h with
  | criteriaTooDeep => exact .criteriaTooDeep
  | queriesTooDeep => exact .queriesTooDeep
  | unsupported occurs refused =>
    cases occurs with
    | itself => rcases refused with other | ⟨-, other⟩ <;> simp [Query.kind] at other
    | embedded embeds inside => exact .unsupported (.embedded (nests.deep embeds) inside) refused
  | blamed involves blamed =>
    obtain ⟨_, same, involves⟩ := involves
    cases same
    exact .of_blamed (nests.involves involves) blamed

/-- And so does what explains a fault of an embedded query. -/
theorem of_embeds {query : Query} (embeds : criteria.Embeds query) (h : c.Explains query fault) :
    c.Explains (.criteria criteria) fault := by
  cases h with
  | criteriaTooDeep => exact .criteriaTooDeep
  | queriesTooDeep => exact .queriesTooDeep
  | unsupported occurs refused => exact .unsupported (.embedded embeds.deep occurs) refused
  | blamed involves blamed => exact .of_blamed (embeds.involves involves) blamed

theorem of_wrapped {query : Query} (h : c.Explains query fault) :
    c.Explains (.wrapped query) fault := by
  cases h with
  | criteriaTooDeep => exact .criteriaTooDeep
  | queriesTooDeep => exact .queriesTooDeep
  | unsupported occurs refused => exact .unsupported occurs.wrapped refused
  | blamed involves blamed => exact .blamed involves blamed

end Explains

end Compiler

/-- A list that is compiled item by item fails because of one of its items. `cons` says so of the
first item and what follows it. -/
theorem exists_mem_of_eq_error {ε α β : Type} {compile : List α → Except ε (List β)}
    {fails : α → Prop} {e : ε} (nil : compile [] ≠ .error e)
    (cons : ∀ item rest, compile (item :: rest) = .error e → fails item ∨ compile rest = .error e)
    {items : List α} (h : compile items = .error e) : ∃ item ∈ items, fails item := by
  induction items with
  | nil => exact absurd h nil
  | cons item rest ih =>
    rcases cons item rest h with here | later
    · exact ⟨item, List.mem_cons_self, here⟩
    · obtain ⟨other, mem, there⟩ := ih later
      exact ⟨other, List.mem_cons_of_mem item mem, there⟩

theorem eq_error_of_bind_append {ε α β : Type} {x : Except ε α} {f : α → List β}
    {y : Except ε (List β)} {e : ε}
    (h : (do let a ← x; let others ← y; return f a ++ others) = .error e) :
    x = .error e ∨ y = .error e := by
  rcases bind_eq_error_iff.mp h with first | ⟨a, -, second⟩
  · exact .inl first
  · exact .inr (bind_pure_eq_error_iff.mp second)

namespace Filter

variable {resolve : Resolver} {maxDepth depth : Nat} {criterion : Criterion} {fault : Fault}

/-- The own filter of a criterion fails because of the criterion. -/
theorem predicates_blamed
    (h : predicates resolve criterion.field criterion.filterEntries = .error fault) :
    criterion.Blamed resolve .filter fault := by
  unfold predicates at h
  split at h
  · cases h
  · next entry rest named entries =>
    cases h
    have stands : entry ∈ criterion.filterEntries := by simp [entries]
    exact .nameless stands named
  · next field named _ =>
    obtain ⟨entry, stands, refused⟩ := mapM_eq_error h
    rcases GeoFilter.build_fault (map_eq_error_iff.mp refused) with
      about | ⟨neutral, rfl⟩ | ⟨scores, rfl⟩
    · exact .of_aboutOperand stands named about
    · exact .neutralUnit stands neutral
    · have elsewhere : entry.operator.context ≠ .filter := by simp [scores]
      exact .misplaced stands elsewhere

theorem ofNested_fault {list : List Criteria}
    (h : ofNested resolve maxDepth depth list = .error fault) :
    ∃ nested ∈ list, ofCriteria resolve maxDepth (depth + 1) nested = .error fault := by
  refine exists_mem_of_eq_error (by simp [ofNested]) (fun nested rest failed => ?_) h
  rw [ofNested] at failed
  exact eq_error_of_bind_append failed

theorem ofChain_fault {chain : List Criterion}
    (h : ofChain resolve maxDepth depth chain = .error fault) :
    ∃ owner ∈ chain, owner.Blamed resolve .filter fault ∨
      ∃ nested ∈ owner.nested, ofCriteria resolve maxDepth (depth + 1) nested = .error fault := by
  refine exists_mem_of_eq_error (by simp [ofChain]) (fun owner rest failed => ?_) h
  obtain ⟨field, joiner, negated, queryEntries, filterEntries, boost, nested⟩ := owner
  rw [ofChain] at failed
  rcases bind_eq_error_iff.mp failed with own | ⟨_, -, failed⟩
  · exact .inl (.inl (predicates_blamed own))
  rcases bind_eq_error_iff.mp failed with below | ⟨_, -, failed⟩
  · exact .inl (.inr (ofNested_fault below))
  · exact .inr (bind_pure_eq_error_iff.mp failed)

/-- The filter of criteria fails because of their depth, or because of a filtering entry at some
level of nested criteria. -/
theorem ofCriteria_fault {criteria : Criteria}
    (h : ofCriteria resolve maxDepth depth criteria = .error fault) :
    fault = .criteriaTooDeep maxDepth ∨ ∃ level criterion, criteria.Contains level criterion ∧
      criterion.Blamed resolve .filter fault := by
  induction criteria using Criteria.induction_on_nested generalizing depth with
  | step criteria ih =>
    obtain ⟨chain⟩ := criteria
    rw [ofCriteria] at h
    split at h
    · cases h
      exact .inl rfl
    · obtain ⟨owner, mem, here | ⟨nested, mem', below⟩⟩ := ofChain_fault (map_eq_error_iff.mp h)
      · exact .inr ⟨0, owner, .inChain mem, here⟩
      · have nests : Criteria.Nests ⟨chain⟩ nested := ⟨owner, mem, mem'⟩
        rcases ih nested nests below with deep | ⟨level, criterion, within, blamed⟩
        · exact .inl deep
        · exact .inr ⟨level + 1, criterion, .inNested nests within, blamed⟩

end Filter

/-- What stands in criteria on some level of nested criteria is involved in them. -/
theorem Criteria.Contains.involves {criteria : Criteria} {level : Nat} {criterion : Criterion}
    (h : criteria.Contains level criterion) : criteria.Involves criterion := by
  induction h with
  | inChain mem => exact ⟨0, _, .itself _, mem⟩
  | inNested nests _ ih => exact nests.involves ih

namespace Compiler

variable {c : Compiler} {depth : Nat} {criteria : Criteria} {criterion : Criterion} {fault : Fault}

/-- A scoring entry fails because of itself or because of the query that is embedded in it. -/
theorem leavesAt_fault {field : Field} {entries : List Entry}
    (h : c.leavesAt depth (c.resolve field) entries = .error fault) :
    ∃ entry ∈ entries,
      (∃ query, entry.operand.embedded? = some query ∧
        c.subQueryAt (depth + 1) query = .error fault) ∨
      fault.AboutOperand (c.resolve field).name entry.operator ∨
      entry.operator.context = .filter ∧
        fault = .unsupportedOperator entry.operator.label .query := by
  refine exists_mem_of_eq_error (by simp [leavesAt]) (fun entry rest failed => ?_) h
  rw [leavesAt_cons] at failed
  rcases bind_eq_error_iff.mp failed with refused | ⟨_, -, later⟩
  · left
    rcases Clause.build_fault refused with ⟨⟨query, embedded⟩, inside⟩ | own
    · rw [Operand.compileEmbedded_of_some embedded] at inside
      exact .inl ⟨query, embedded, inside⟩
    · exact .inr own
  · exact .inr (bind_pure_eq_error_iff.mp later)

/-- The fragment of a criterion fails because of the criterion or because of a query that is embedded
in it. -/
theorem fragmentAt_fault (h : c.fragmentAt depth criterion = .error fault) :
    (∃ entry ∈ criterion.queryEntries, ∃ query, entry.operand.embedded? = some query ∧
        c.subQueryAt (depth + 1) query = .error fault) ∨
      ∃ context, criterion.Blamed c.resolve context fault := by
  obtain ⟨field, joiner, negated, queryEntries, filterEntries, boost, nested⟩ := criterion
  cases field with
  | none =>
    rw [fragmentAt] at h
    split at h
    · cases h
    · next entry rest entries =>
      cases h
      have stands : entry ∈ queryEntries ++ filterEntries := by simp [entries]
      rcases List.mem_append.mp stands with scoring | filtering
      · exact .inr ⟨.query, .nameless scoring rfl⟩
      · exact .inr ⟨.filter, .nameless filtering rfl⟩
  | some field =>
    cases queryEntries with
    | nil =>
      rw [fragmentAt] at h
      cases h
    | cons first rest =>
      rw [fragmentAt] at h
      · obtain ⟨entry, stands, inside | about | ⟨filters, rfl⟩⟩ :=
          leavesAt_fault (bind_pure_eq_error_iff.mp h)
        · exact .inl ⟨entry, stands, inside⟩
        · exact .inr ⟨.query, .of_aboutOperand stands rfl about⟩
        · have elsewhere : entry.operator.context ≠ .query := by simp [filters]
          exact .inr ⟨.query, .misplaced stands elsewhere⟩
      · exact List.cons_ne_nil first rest

theorem fragmentsAt_fault {chain : List Criterion} (h : c.fragmentsAt depth chain = .error fault) :
    ∃ owner ∈ chain, c.fragmentAt depth owner = .error fault := by
  refine exists_mem_of_eq_error (by simp [fragmentsAt]) (fun owner rest failed => ?_) h
  rw [fragmentsAt] at failed
  exact eq_error_of_bind_append failed

theorem nestedListAt_fault {list : List Criteria} (h : c.nestedListAt depth list = .error fault) :
    ∃ nested ∈ list, c.criteriaAt (depth + 1) nested = .error fault := by
  refine exists_mem_of_eq_error (by simp [nestedListAt]) (fun nested rest failed => ?_) h
  rw [nestedListAt] at failed
  exact eq_error_of_bind_append failed

theorem nestedAt_fault {chain : List Criterion} (h : c.nestedAt depth chain = .error fault) :
    ∃ nested, (Criteria.mk chain).Nests nested ∧ c.criteriaAt (depth + 1) nested = .error fault := by
  have found : ∃ owner ∈ chain, c.nestedListAt depth owner.nested = .error fault := by
    refine exists_mem_of_eq_error (by simp [nestedAt]) (fun owner rest failed => ?_) h
    obtain ⟨field, joiner, negated, queryEntries, filterEntries, boost, nested⟩ := owner
    rw [nestedAt] at failed
    exact eq_error_of_bind_append failed
  obtain ⟨owner, mem, failed⟩ := found
  obtain ⟨nested, mem', below⟩ := nestedListAt_fault failed
  exact ⟨nested, ⟨owner, mem, mem'⟩, below⟩

/-- The scoring tree of criteria fails because of their depth, a criterion of the chain, an embedded
query or nested criteria. -/
theorem criteriaAt_fault (h : c.criteriaAt depth criteria = .error fault) :
    fault = .criteriaTooDeep c.settings.maxDepth ∨
      (∃ owner ∈ criteria.chain, ∃ context, owner.Blamed c.resolve context fault) ∨
      (∃ query, criteria.Embeds query ∧ c.subQueryAt (depth + 1) query = .error fault) ∨
      ∃ nested, criteria.Nests nested ∧ c.criteriaAt (depth + 1) nested = .error fault := by
  obtain ⟨chain⟩ := criteria
  rw [criteriaAt] at h
  split at h
  · cases h
    exact .inl rfl
  rcases bind_eq_error_iff.mp h with own | ⟨_, -, h⟩
  · obtain ⟨owner, mem, failed⟩ := fragmentsAt_fault own
    rcases fragmentAt_fault failed with ⟨entry, mem', query, embedded, inside⟩ | blamed
    · exact .inr (.inr (.inl ⟨query, ⟨owner, mem, entry, mem', embedded⟩, inside⟩))
    · exact .inr (.inl ⟨owner, mem, blamed⟩)
  · exact .inr (.inr (.inr (nestedAt_fault (bind_pure_eq_error_iff.mp h))))

/-- An embedded query is refused for its depth or its kind, or because it fails itself. -/
theorem subQueryAt_fault {query : Query} (h : c.subQueryAt depth query = .error fault) :
    fault = .queriesTooDeep c.settings.maxDepth ∨
      c.Refuses query.kind ∧ fault = .unsupportedQuery query.kind ∨
      c.queryAt depth query = .error fault := by
  rw [subQueryAt] at h
  rcases bind_eq_error_iff.mp h with refused | ⟨_, -, inside⟩
  · unfold allowAt at refused
    split at refused
    · cases refused
      exact .inl rfl
    · split at refused
      case isTrue only =>
        cases refused
        exact .inr (.inl ⟨.inr only, rfl⟩)
      case isFalse => cases refused
  · exact .inr (.inr inside)

/-- Whatever is wrong is wrong with something that stands in the query. -/
theorem hereditary_explanation (c : Compiler) :
    Hereditary
      (fun query => ∀ depth fault, c.queryAt depth query = .error fault → c.Explains query fault)
      (fun criteria => ∀ depth fault, c.criteriaAt depth criteria = .error fault →
        c.Explains (.criteria criteria) fault) where
  step criteria nests embeds depth fault h := by
    rcases criteriaAt_fault h with
      rfl | ⟨owner, mem, context, blamed⟩ | ⟨query, embedded, failed⟩ | ⟨nested, inside, failed⟩
    · exact .criteriaTooDeep
    · exact .of_blamed ⟨0, criteria, .itself criteria, mem⟩ blamed
    · rcases subQueryAt_fault failed with rfl | ⟨refused, rfl⟩ | failed
      · exact .queriesTooDeep
      · exact .unsupported (.embedded embedded.deep .itself) refused
      · exact .of_embeds embedded (embeds query embedded _ fault failed)
    · exact .of_nests inside (nests nested inside _ fault failed)
  criteria criteria ih depth fault h := by
    rw [queryAt] at h
    rcases bind_eq_error_iff.mp h with scoring | ⟨_, -, h⟩
    · exact ih depth fault scoring
    · rcases Filter.ofCriteria_fault (bind_pure_eq_error_iff.mp h) with
        rfl | ⟨level, criterion, within, blamed⟩
      · exact .criteriaTooDeep
      · exact .of_blamed within.involves blamed
  wrapped query ih depth fault h := by
    rw [queryAt] at h
    exact (ih depth fault h).of_wrapped
  text source depth fault h := by
    rw [queryAt] at h
    cases h
  native tree depth fault h := by
    rw [queryAt] at h
    cases h
  template id params depth fault h := by
    rw [queryAt] at h
    cases h
    exact .unsupported .itself (.inl rfl)

/-- Every fault of a compilation is explained by the normalized query, and it is a fault of the query
and not of the settings. A filter on its own is refused for the depth of nested criteria or because
of a filtering entry in them, and for nothing else. -/
theorem faults_explained (c : Compiler) :
    (∀ query normalize fault, c.dispatch query normalize = .error fault →
      c.Explains (normalize query) fault ∧ fault.isQueryFault) ∧
    (∀ criteria fault, c.compile criteria = .error fault ∨ c.build criteria = .error fault ∨
        c.compileFilter criteria = .error fault →
      c.Explains (.criteria criteria) fault ∧ fault.isQueryFault) ∧
    ∀ criteria fault, c.compileFilter criteria = .error fault →
      fault = .criteriaTooDeep c.settings.maxDepth ∨
        ∃ level criterion, criteria.Contains level criterion ∧
          criterion.Blamed c.resolve .filter fault := by
  have explained := c.hereditary_explanation
  refine ⟨fun query normalize fault failed => ?_, fun criteria fault failed => ?_,
    fun criteria fault failed => Filter.ofCriteria_fault failed⟩
  · have found := explained.holds_query (normalize query) 0 fault failed
    exact ⟨found, found.isQueryFault⟩
  · have found : c.Explains (.criteria criteria) fault := by
      rcases failed with scoring | whole | filtering
      · exact explained.holds_criteria criteria 0 fault scoring
      · exact explained.holds_query (.criteria criteria) 0 fault whole
      · rcases Filter.ofCriteria_fault filtering with rfl | ⟨level, criterion, within, blamed⟩
        · exact .criteriaTooDeep
        · exact .of_blamed within.involves blamed
    exact ⟨found, found.isQueryFault⟩

/-- Children of whom a point is asked as if it were the name of their city. -/
def childrenInPoint : Query :=
  let city : Entry := ⟨.isIn, .sequence [.text "Graz", .geoPoint ⟨.zero false, .zero false⟩]⟩
  let children : Query :=
    .criteria ⟨[{ Criterion.on (.named "city") with queryEntries := [city] }]⟩
  .criteria ⟨[{ Criterion.on (.named "home") with
    queryEntries := [⟨.hasChild, .hasChild "person" children none none⟩] }]⟩

/-- The fault names the field of the children as it is resolved, and the operator there. -/
theorem faults_explained_childrenInPoint :
    let stored : ResolvedField := ⟨"city.raw", some .keyword, none⟩
    let c := { standard with resolve := .ofTable [("city", stored)] }
    let fault := Fault.invalidArgument "city.raw" "IN" (.notTerm .geoPoint)
    c.dispatch childrenInPoint id = .error fault ∧ c.Explains childrenInPoint fault ∧
      fault.isQueryFault := by
  intro stored c fault
  have failed : c.dispatch childrenInPoint id = .error fault := rfl
  exact ⟨failed, c.faults_explained.1 childrenInPoint id fault failed⟩

end Compiler

end SearchCriteria
