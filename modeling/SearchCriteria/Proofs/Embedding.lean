import SearchCriteria.Proofs.Arrangement
import SearchCriteria.Proofs.Occurrence

/-!
# Compiling part by part

Embedding is compositional. A relationship asks its children or its parent for exactly what the
embedded query is dispatched to, wherever the entry stands, and fails with the fault of the embedded
query if there is one; nested criteria add to their chain exactly the tree that they have on their
own.

That holds where an entry or criteria stand, for the list or the chain around them. From there it is
carried to the tree of the whole: fragments and trees of nested criteria are among its clauses, and
what an embedded query is made of stands in the relationship, filter or not.
-/

namespace SearchCriteria

/-- An entry asks for related documents that match a query. -/
inductive Entry.Relates : Entry → Query → Prop where
  | children (type : String) (query : Query) (scoreMode : Option ScoreMode)
    (innerHits : Option InnerHits) :
    Relates ⟨.hasChild, .hasChild type query scoreMode innerHits⟩ query
  | parent (type : String) (query : Query) (score : Bool) (innerHits : Option InnerHits) :
    Relates ⟨.hasParent, .hasParent type query score innerHits⟩ query

theorem Entry.Relates.embedded {entry : Entry} {query : Query} (h : entry.Relates query) :
    entry.operand.embedded? = some query := by
  cases h <;> rfl

namespace Clause

variable {settings : Settings} {entry : Entry} {operand : Operand} {query : Query}

/-- Nothing is wrong with an entry that asks for related documents, apart from its query. -/
theorem build_of_relates (relates : entry.Relates query) (field : ResolvedField)
    (embedded : Except Fault (Option QueryTree)) :
    build settings field entry embedded = embedded.map (relate settings entry.operand) := by
  rw [build_of_embedded relates.embedded]
  cases relates <;> rfl

/-- What is asked of related documents is what their query compiles to, or anything. -/
theorem asked?_relate (settings : Settings) (h : operand.embedded? = some query)
    (found : Option QueryTree) (boost : Option Double) :
    ((relate settings operand found).withBoost boost).asked? = some (found.getD .matchAll) := by
  rw [QueryTree.asked?_withBoost]
  cases operand <;> cases h <;> rfl

theorem relate_ne_bool (settings : Settings) (h : operand.embedded? = some query)
    (found : Option QueryTree) (boost : Option Double) (q : BoolQuery) :
    (relate settings operand found).withBoost boost ≠ .bool q := by
  intro same
  have asks := asked?_relate settings h found boost
  rw [same] at asks
  cases asks

end Clause

theorem BoolQuery.Arranges.mem_clauses {q : BoolQuery} {own nested : List QueryTree}
    (h : q.Arranges own nested) {tree : QueryTree} (mem : tree ∈ own ++ nested) :
    tree ∈ q.clauses :=
  List.mem_append_left _ (h.once.mem_iff.mpr mem)

/-- A predicate stands in the tree that it is part of, with a boost if it is the only one. -/
theorem QueryTree.Carries.contains {boost : Option Double} {tree leaf : QueryTree}
    {leaves : List QueryTree} (h : tree.Carries boost leaves) (mem : leaf ∈ leaves) :
    ∃ boost, tree.Contains (leaf.withBoost boost) := by
  induction h with
  | single only =>
    rw [List.mem_singleton.mp mem]
    exact ⟨boost, .itself _⟩
  | several _ => exact ⟨none, .of_clause (by simp [BoolQuery.clauses, mem])⟩
  | moved path scoreMode _ ih =>
    obtain ⟨boost, below⟩ := ih mem
    exact ⟨boost, .nested below⟩
  | turned _ ih =>
    obtain ⟨boost, below⟩ := ih mem
    exact ⟨boost, .clause (by simp [BoolQuery.clauses]) below⟩

/-- A filter leaves standing what stands in a boolean query. -/
theorem Filter.attach_contains {q : BoolQuery} {part : QueryTree}
    (contains : (QueryTree.bool q).Contains part) (other : part ≠ .bool q)
    (filter : Option QueryTree) :
    ∃ tree, attach (some (.bool q)) filter = some tree ∧ tree.Contains part := by
  cases filter with
  | none => exact ⟨_, rfl, contains⟩
  | some filter =>
    obtain ⟨minimum, attached, -⟩ := attach_some (some (.bool q)) filter
    refine ⟨_, attached, ?_⟩
    cases contains with
    | itself => exact absurd rfl other
    | related asks => cases asks
    | clause mem below =>
      refine .clause ?_ below
      rw [BoolQuery.clauses_filter]
      exact List.mem_append_left [filter] mem

namespace Compiler

variable {c : Compiler} {depth : Nat}

/-- A list of entries compiles up to a relationship, then the relationship has its say with what its
query is dispatched to, and then what follows. -/
theorem leavesAt_of_relates (every : c.embedding = .everyQuery) {field : ResolvedField}
    {before after : List Entry} {entry : Entry} {query : Query} {leaves : List QueryTree}
    (relates : entry.Relates query) (room : depth + 1 + query.nesting ≤ c.settings.maxDepth)
    (reached : c.leavesAt depth field before = .ok leaves) :
    c.leavesAt depth field (before ++ entry :: after) = (do
      let found ← c.dispatch query id
      let others ← c.leavesAt depth field after
      return leaves ++ Clause.relate c.settings entry.operand found :: others) := by
  induction before generalizing leaves with
  | nil =>
    rw [leavesAt] at reached
    cases reached
    rw [List.nil_append, leavesAt_cons, Operand.compileEmbedded_of_some relates.embedded,
      Clause.build_of_relates relates, subQueryAt_eq_dispatch every room]
    cases c.dispatch query id <;> rfl
  | cons first rest ih =>
    rw [leavesAt_cons, bind_eq_ok_iff] at reached
    obtain ⟨leaf, built, reached⟩ := reached
    obtain ⟨others, compiled, same⟩ := bind_eq_ok_iff.mp reached
    cases pure_eq_ok_iff.mp same
    rw [List.cons_append, leavesAt_cons, built, ih compiled]
    cases c.dispatch query id with
    | error fault => rfl
    | ok found => cases c.leavesAt depth field after <;> rfl

/-- Somewhere in a result there is a relationship that asks for what a query is dispatched to. -/
def ShowsRelation (c : Compiler) (operand : Operand) (query : Query) (result : Option QueryTree) :
    Prop :=
  ∃ found boost tree, c.dispatch query id = .ok found ∧ result = some tree ∧
    tree.Contains ((Clause.relate c.settings operand found).withBoost boost)

/-- Every fragment, of the chain and of what is nested in it, stands in the scoring tree. -/
theorem join_contains {own nested : List Fragment} {f : Fragment} (mem : f ∈ own ++ nested) :
    ∃ tree, Fragment.join own nested = some tree ∧ tree.Contains f.query := by
  have arranged := Fragment.joined_arranges own nested
  rw [Fragment.join_eq_joined, if_neg (List.ne_nil_of_mem mem)]
  refine ⟨_, rfl, .of_clause (arranged.mem_clauses ?_)⟩
  rw [← List.map_append]
  exact List.mem_map_of_mem mem

/-- The relationships of a chain stand in its scoring tree. -/
theorem showsRelation_of_chain (every : c.embedding = .everyQuery) {criteria : Criteria}
    {result : Option QueryTree} (h : c.compile criteria = .ok result) {owner : Criterion}
    (mem : owner ∈ criteria.chain) {entry : Entry} (mem' : entry ∈ owner.queryEntries)
    {query : Query} (embedded : entry.operand.embedded? = some query) :
    c.ShowsRelation entry.operand query result := by
  have contributes : owner.contributes :=
    (contributes_iff_of_criteriaAt h owner mem).mpr (List.ne_nil_of_mem mem')
  have room : 0 + 1 + query.nesting ≤ c.settings.maxDepth :=
    (Criteria.depth_add_nesting_le_iff.mp (nesting_le_of_criteriaAt h)).2.1 query
      ⟨owner, mem, entry, mem', embedded⟩
  obtain ⟨own, trees, -, fragments, -, rfl⟩ := parts_of_criteriaAt h
  obtain ⟨f, stands, field, leaves, -, built, -, carries⟩ :=
    exists_mem_of_forall₂ fragments (List.mem_filter.mpr ⟨mem, contributes⟩)
  obtain ⟨leaf, inside, made⟩ := exists_mem_of_forall₂ built mem'
  rw [Clause.build_compileEmbedded embedded, bind_eq_ok_iff] at made
  obtain ⟨_, -, made⟩ := made
  obtain ⟨found, dispatched, rfl⟩ := map_eq_ok_iff.mp made
  rw [subQueryAt_eq_dispatch every room] at dispatched
  obtain ⟨boost, shown⟩ := carries.contains inside
  obtain ⟨tree, joined, holds⟩ := join_contains (List.mem_append_left _ stands)
  exact ⟨found, boost, tree, dispatched, joined, holds.trans shown⟩

/-- The tree of nested criteria stands in the scoring tree of the chain. -/
theorem contains_of_nests {criteria nested : Criteria} (nests : criteria.Nests nested)
    {result : Option QueryTree} (h : c.compile criteria = .ok result) :
    ∃ below, c.compile nested = .ok below ∧
      ∀ tree ∈ below, ∃ whole, result = some whole ∧ whole.Contains tree := by
  obtain ⟨owner, mem, mem'⟩ := nests
  obtain ⟨own, trees, -, -, owned, rfl⟩ := parts_of_criteriaAt h
  have stands : (owner, nested) ∈ criteria.owned :=
    List.mem_flatMap.mpr ⟨owner, mem, List.mem_map_of_mem mem'⟩
  obtain ⟨below, listed, compiled⟩ := exists_mem_of_forall₂ owned stands
  refine ⟨below, compiled, ?_⟩
  rintro tree rfl
  have there : tree ∈ (Fragment.ofNested criteria.owned trees).map Fragment.query := by
    rw [Fragment.map_query_ofNested owned.length_eq]
    exact List.reduceOption_mem_iff.mpr listed
  obtain ⟨f, inside, rfl⟩ := List.mem_map.mp there
  exact join_contains (List.mem_append_right _ inside)

/-- A query that consists of criteria is dispatched to what is built of them. -/
theorem queryAt_of_criteria? {asked : Criteria} : ∀ {query : Query}, query.criteria? = some asked →
    c.queryAt depth query = c.queryAt depth (.criteria asked)
  | .criteria _, h => by
    cases h
    rfl
  | .wrapped query, h => by
    have inside : query.criteria? = some asked := h
    have unwrapped : c.queryAt depth (.wrapped query) = c.queryAt depth query := by rw [queryAt]
    rw [unwrapped, queryAt_of_criteria? inside]
  | .text _, h => by cases h
  | .native _, h => by cases h
  | .template _ _, h => by cases h

/-- What a scoring tree shows is still there once the filter is attached. -/
theorem showsRelation_of_build {criteria : Criteria} {operand : Operand} {query : Query}
    (embedded : operand.embedded? = some query) {result : Option QueryTree}
    (shown : ∀ scoring, c.compile criteria = .ok scoring → c.ShowsRelation operand query scoring)
    (h : c.build criteria = .ok result) : c.ShowsRelation operand query result := by
  obtain ⟨scoring, filter, compiled, -, rfl⟩ := build_eq_ok_iff.mp h
  obtain ⟨found, boost, tree, dispatched, rfl, contains⟩ := shown scoring compiled
  obtain ⟨q, rfl, -⟩ := criteriaAt_isPlain compiled
  have other := Clause.relate_ne_bool c.settings embedded found boost q
  obtain ⟨tree, attached, contains⟩ := Filter.attach_contains contains other filter
  exact ⟨found, boost, tree, dispatched, attached, contains⟩

/-- A relationship stands in the scoring tree of all criteria that its own can be reached from. -/
theorem showsRelation_of_reaches (every : c.embedding = .everyQuery) {root inner : Criteria}
    {level : Nat} (reached : root.Reaches level inner) {owner : Criterion}
    (mem : owner ∈ inner.chain) {entry : Entry} (mem' : entry ∈ owner.queryEntries) {query : Query}
    (embedded : entry.operand.embedded? = some query) :
    ∀ result, c.compile root = .ok result → c.ShowsRelation entry.operand query result := by
  induction reached with
  | itself criteria =>
    intro result compiled
    exact showsRelation_of_chain every compiled mem mem' embedded
  | nested nests _ ih =>
    intro result compiled
    obtain ⟨below, compiled', stands⟩ := contains_of_nests nests compiled
    obtain ⟨found, boost, tree, dispatched, rfl, shown⟩ := ih mem _ compiled'
    obtain ⟨whole, rfl, contains⟩ := stands tree rfl
    exact ⟨found, boost, whole, dispatched, rfl, contains.trans shown⟩
  | @embedded criteria asked inner outer level embeds consists _ ih =>
    intro result compiled
    obtain ⟨owner', there, entry', there', embedded'⟩ := embeds
    -- The embedded criteria are built, so what they show has to be carried past their filter first.
    obtain ⟨found', boost', tree, dispatched', rfl, contains⟩ :=
      showsRelation_of_chain every compiled there there' embedded'
    rw [dispatch, id, queryAt_of_criteria? consists] at dispatched'
    obtain ⟨found, boost, whole, dispatched, rfl, shown⟩ :=
      showsRelation_of_build embedded (ih mem) dispatched'
    have asks := Clause.asked?_relate c.settings embedded' (some whole) boost'
    exact ⟨found, boost, tree, dispatched, rfl, contains.trans (.related asks not_false shown)⟩

/-- A compiler compiles part by part. -/
structure Compositional (c : Compiler) : Prop where
  /-- Where there is room for its query, an entry that asks for related documents asks for what the
  query is dispatched to, or refuses what is refused there, between the entries around it. -/
  entry : ∀ depth field before entry after query leaves, Entry.Relates entry query →
    depth + 1 + query.nesting ≤ c.settings.maxDepth → c.leavesAt depth field before = .ok leaves →
    c.leavesAt depth field (before ++ entry :: after) = (do
      let found ← c.dispatch query id
      let others ← c.leavesAt depth field after
      return leaves ++ Clause.relate c.settings entry.operand found :: others)
  /-- What the query is dispatched to is what is asked of the related documents, and anything is
  asked of them if that is nothing. -/
  asked : ∀ entry query found boost, Entry.Relates entry query →
    ((Clause.relate c.settings entry.operand found).withBoost boost).asked? =
      some (found.getD .matchAll)
  /-- Nested criteria add to a chain the trees that they have on their own, as their owners are
  joined. -/
  nested : ∀ depth criteria result, c.criteriaAt depth criteria = .ok result →
    ∃ own trees, c.fragmentsAt depth criteria.chain = .ok own ∧
      List.Forall₂ (fun (owned : Criterion × Criteria) tree => c.compile owned.2 = .ok tree)
        criteria.owned trees ∧
      result = Fragment.join own (Fragment.ofNested criteria.owned trees)
  /-- Wherever an entry asks for related documents, its query can be dispatched if the whole
  compiles, and what comes of it stands in the whole. -/
  anywhere : ∀ root level inner, Criteria.Reaches root level inner → ∀ owner ∈ inner.chain,
    ∀ entry ∈ owner.queryEntries, ∀ query, Entry.Relates entry query → ∀ result,
      c.compile root = .ok result ∨ c.build root = .ok result →
        c.ShowsRelation entry.operand query result

/-- Embedding every query is compositional, at whatever depth and level. -/
theorem compositional_of_everyQuery (every : c.embedding = .everyQuery) : c.Compositional where
  entry depth field before entry after query leaves relates room reached :=
    leavesAt_of_relates every relates room reached
  asked entry query found boost relates :=
    Clause.asked?_relate c.settings relates.embedded found boost
  nested depth criteria result h := by
    obtain ⟨own, trees, compiled, -, owned, joined⟩ := parts_of_criteriaAt h
    exact ⟨own, trees, compiled, owned, joined.symm⟩
  anywhere root level inner reached owner mem entry mem' query relates result h := by
    have scoring := showsRelation_of_reaches every reached mem mem' relates.embedded
    rcases h with compiled | built
    · exact scoring result compiled
    · exact showsRelation_of_build relates.embedded scoring built

/-- What a parent is asked for, by children that criteria in a chain ask for. -/
def grandparents : Criteria :=
  let parents : Entry := ⟨.hasParent, .hasParent "d" (.text "e") true none⟩
  let children : Criteria := ⟨[{ Criterion.on (.named "c") with queryEntries := [parents] }]⟩
  let asked : Entry := ⟨.hasChild, .hasChild "b" (.wrapped (.criteria children)) none none⟩
  ⟨[{ Criterion.blank with
    nested := [⟨[{ Criterion.on (.named "a") with queryEntries := [asked] }]⟩] }]⟩

/-- Two levels down, past a wrapped query, the text is what it is dispatched to. -/
theorem compositional_of_everyQuery_grandparents :
    ∃ result, standard.build grandparents = .ok result ∧
      standard.ShowsRelation (.hasParent "d" (.text "e") true none) (.text "e") result := by
  have built : standard.build grandparents = .ok (some _) := rfl
  have reached : grandparents.Reaches 2 _ :=
    .nested ⟨_, List.mem_singleton_self _, List.mem_singleton_self _⟩
      (.embedded ⟨_, List.mem_singleton_self _, _, List.mem_singleton_self _, rfl⟩ rfl (.itself _))
  have compositional : standard.Compositional := compositional_of_everyQuery rfl
  exact ⟨_, built, compositional.anywhere _ _ _ reached _ (List.mem_singleton_self _) _
    (List.mem_singleton_self _) _ (.parent "d" (.text "e") true none) _ (.inr built)⟩

end Compiler

end SearchCriteria
