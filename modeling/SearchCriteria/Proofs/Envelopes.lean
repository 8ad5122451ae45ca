import SearchCriteria.Proofs.Embedding
import SearchCriteria.Proofs.Renaming
import SearchCriteria.Proofs.Unwrapping

/-!
# Envelopes and what is passed on as it is

Envelopes around queries make no difference: queries that are the same without them are dispatched
to the same tree or the same fault, under whatever limit on the depth, since envelopes nest nothing.

A query in the words of the search engine, or a finished tree, is passed on as it is. On its own it
is the whole result. Embedded in an operand, at whatever level, it is what the relationship asks
for; a boost, a negation or a path around it changes what is outside of the relationship, or the
boost of the relationship, and nothing inside.

Both hold whether the fields of the query are renamed first or not, for to rename them is to resolve
them in another way.
-/

namespace SearchCriteria

/-- The tree that a query is passed on as, if it is not looked into, whether it is wrapped or not.
-/
def Query.verbatim? : Query → Option QueryTree
  | .text source => some (.wrapper source)
  | .native tree => some tree
  | .wrapped query => query.verbatim?
  | .criteria _ => none
  | .template _ _ => none

/-- To normalize a query is at most to rename its fields. -/
def RenamesAtMost (normalize : Query → Query) : Prop :=
  normalize = id ∨ ∃ table, normalize = Query.rename table

namespace Compiler

variable {c : Compiler} {depth : Nat}

/-- To dispatch a normalized query is to dispatch the query with fields resolved in another way. -/
theorem dispatch_eq_of_renamesAtMost (c : Compiler) {normalize : Query → Query}
    (h : RenamesAtMost normalize) :
    ∃ resolve, ∀ query, c.dispatch query normalize = { c with resolve }.dispatch query id := by
  rcases h with rfl | ⟨table, rfl⟩
  · exact ⟨c.resolve, fun _ => rfl⟩
  · exact ⟨c.resolve.renamed table, fun query => (c.hereditary_rename table).holds_query query 0⟩

/-- Queries that are the same without their envelopes are compiled to the same. -/
theorem queryAt_eq_of_unwrapped (every : c.embedding = .everyQuery) {query other : Query}
    (same : query.unwrapped = other.unwrapped) : c.queryAt depth query = c.queryAt depth other :=
  calc c.queryAt depth query
      = c.queryAt depth query.unwrapped :=
        ((hereditary_unwrapped every).holds_query query depth).symm
    _ = c.queryAt depth other.unwrapped := by rw [same]
    _ = c.queryAt depth other := (hereditary_unwrapped every).holds_query other depth

/-- What is not looked into is passed on as it is. -/
theorem queryAt_of_verbatim? {tree : QueryTree} : ∀ {query : Query},
    query.verbatim? = some tree → c.queryAt depth query = .ok (some tree)
  | .text _, h => by
    cases h
    rw [queryAt]
  | .native _, h => by
    cases h
    rw [queryAt]
  | .wrapped query, h => by
    have inside : query.verbatim? = some tree := h
    rw [queryAt, queryAt_of_verbatim? inside]
  | .criteria _, h => by cases h
  | .template _ _, h => by cases h

/-- Somewhere in a result, a relationship that an operand stands for asks for exactly this tree. -/
def AsksVerbatim (c : Compiler) (operand : Operand) (tree : QueryTree)
    (result : Option QueryTree) : Prop :=
  ∃ whole boost, result = some whole ∧
    whole.Contains ((Clause.relate c.settings operand (some tree)).withBoost boost) ∧
    ((Clause.relate c.settings operand (some tree)).withBoost boost).asked? = some tree

/-- A query that is not looked into is asked for as it is, wherever it is embedded. -/
theorem asksVerbatim_of_reaches (every : c.embedding = .everyQuery) {query asked : Query}
    {root inner : Criteria} {level : Nat} (consists : query.criteria? = some root)
    (reached : root.Reaches level inner) {owner : Criterion} (mem : owner ∈ inner.chain)
    {entry : Entry} (mem' : entry ∈ owner.queryEntries)
    (embedded : entry.operand.embedded? = some asked) {tree : QueryTree}
    (verbatim : asked.verbatim? = some tree) {result : Option QueryTree}
    (h : c.dispatch query id = .ok result) : c.AsksVerbatim entry.operand tree result := by
  rw [dispatch, id, queryAt_of_criteria? consists] at h
  have shown : c.ShowsRelation entry.operand asked result :=
    showsRelation_of_build embedded (showsRelation_of_reaches every reached mem mem' embedded) h
  obtain ⟨found, boost, whole, dispatched, rfl, contains⟩ := shown
  have same : found = some tree :=
    Except.ok.inj (dispatched.symm.trans (queryAt_of_verbatim? verbatim))
  subst same
  exact ⟨whole, boost, rfl, contains, Clause.asked?_relate c.settings embedded (some tree) boost⟩

/-- A compiler does not see envelopes, and passes on what it does not look into. -/
structure PassesOn (c : Compiler) (normalize : Query → Query) : Prop where
  /-- Queries that are the same without their envelopes are dispatched to the same. -/
  same : ∀ query other, query.unwrapped = other.unwrapped →
    c.dispatch query normalize = c.dispatch other normalize
  /-- They are nested as deep, too. -/
  nesting : ∀ query other : Query, query.unwrapped = other.unwrapped → query.nesting = other.nesting
  /-- A query that is not looked into is the result itself. -/
  whole : ∀ query tree, Query.verbatim? query = some tree →
    c.dispatch query normalize = .ok (some tree)
  /-- Embedded in an entry, at whatever level, it is what the relationship of the entry asks for. -/
  embedded : ∀ query root level inner, Query.criteria? query = some root →
    Criteria.Reaches root level inner → ∀ owner ∈ inner.chain, ∀ entry ∈ owner.queryEntries,
      ∀ asked tree, entry.operand.embedded? = some asked → asked.verbatim? = some tree →
        ∀ result, c.dispatch query normalize = .ok result →
          c.AsksVerbatim entry.operand tree result

/-- Where every query may be embedded, envelopes make no difference, and what is not looked into is
passed on as it is, whether fields are renamed or not. -/
theorem passesOn_of_everyQuery (every : c.embedding = .everyQuery) {normalize : Query → Query}
    (renames : RenamesAtMost normalize) : c.PassesOn normalize := by
  obtain ⟨resolve, dispatch_eq⟩ := c.dispatch_eq_of_renamesAtMost renames
  have every' : { c with resolve }.embedding = .everyQuery := every
  constructor
  case same =>
    intro query other same
    rw [dispatch_eq, dispatch_eq]
    exact queryAt_eq_of_unwrapped every' same
  case nesting =>
    intro query other same
    rw [← hereditary_nesting_unwrapped.holds_query query, same,
      hereditary_nesting_unwrapped.holds_query other]
  case whole =>
    intro query tree verbatim
    rw [dispatch_eq]
    exact queryAt_of_verbatim? verbatim
  case embedded =>
    intro query root level inner consists reached owner mem entry mem' asked tree embedded verbatim
      result dispatched
    rw [dispatch_eq] at dispatched
    exact asksVerbatim_of_reaches every' consists reached mem mem' embedded verbatim dispatched

/-- Children that are asked for in the words of the search engine, on a boosted field of nested
documents that is not wanted, in some envelopes or none. -/
def childrenInWords (envelope : Query → Query) : Query :=
  let children : Entry := ⟨.hasChild, .hasChild "b" (envelope (.text "words")) none none⟩
  envelope (.criteria ⟨[{ Criterion.on { name := "a", type := none, path := some "p" } with
    joiner := .or, negated := true, queryEntries := [children], boost := some (.zero false) }]⟩)

/-- The words stand in the result, which is the same with two envelopes around each query as with
none, though the field is renamed. -/
theorem passesOn_of_everyQuery_childrenInWords :
    ∃ result, standard.dispatch (childrenInWords id) (Query.rename [("a", "c")]) = .ok result ∧
      standard.dispatch (childrenInWords fun query => .wrapped (.wrapped query))
        (Query.rename [("a", "c")]) = .ok result ∧
      ∃ operand, standard.AsksVerbatim operand (.wrapper "words") result := by
  have renames : RenamesAtMost (Query.rename [("a", "c")]) := .inr ⟨_, rfl⟩
  have passes : standard.PassesOn (Query.rename [("a", "c")]) := passesOn_of_everyQuery rfl renames
  have dispatched : standard.dispatch (childrenInWords id) (Query.rename [("a", "c")]) = .ok _ := rfl
  refine ⟨_, dispatched, ?_, .hasChild "b" (.text "words") none none, ?_⟩
  · exact (passes.same _ (childrenInWords id) rfl).trans dispatched
  · exact passes.embedded (childrenInWords id) _ 0 _ rfl (.itself _) _ (List.mem_singleton_self _) _
      (List.mem_singleton_self _) _ _ rfl rfl _ dispatched

end Compiler

end SearchCriteria
