import Mathlib.Data.List.Forall2
import Mathlib.Data.List.ReduceOption
import SearchCriteria.Compile.Basic

/-!
# What a compilation is made of

The scoring tree of criteria is compiled by recursion through chains, criteria nested in them and
queries embedded in operands. Here each step of that recursion is taken apart once: which parts have
to compile for a construct to compile, and what is made of them. A chain that grows at its end keeps
what it was made of.
-/

namespace SearchCriteria

theorem bind_eq_ok_iff {ε α β : Type} {x : Except ε α} {f : α → Except ε β} {b : β} :
    (x >>= f) = .ok b ↔ ∃ a, x = .ok a ∧ f a = .ok b := by
  cases x <;> simp [bind, Except.bind]

theorem pure_eq_ok_iff {ε α : Type} {a b : α} : (pure a : Except ε α) = .ok b ↔ a = b := by
  simp [pure, Except.pure]

theorem map_eq_ok_iff {ε α β : Type} {x : Except ε α} {f : α → β} {b : β} :
    x.map f = .ok b ↔ ∃ a, x = .ok a ∧ f a = b := by
  cases x <;> simp [Except.map]

theorem bind_eq_error_iff {ε α β : Type} {x : Except ε α} {f : α → Except ε β} {e : ε} :
    (x >>= f) = .error e ↔ x = .error e ∨ ∃ a, x = .ok a ∧ f a = .error e := by
  cases x <;> simp [bind, Except.bind]

theorem map_eq_error_iff {ε α β : Type} {x : Except ε α} {f : α → β} {e : ε} :
    x.map f = .error e ↔ x = .error e := by
  cases x <;> simp [Except.map]

/-- What follows and cannot fail is not to blame. -/
theorem bind_pure_eq_error_iff {ε α β : Type} {x : Except ε α} {f : α → β} {e : ε} :
    (do let a ← x; pure (f a)) = .error e ↔ x = .error e := by
  cases x <;> simp [bind, Except.bind, pure, Except.pure]

/-- A list is taken item by item, and every item has to come out. -/
theorem mapM_eq_ok_iff {ε α β : Type} {f : α → Except ε β} {items : List α} {results : List β} :
    items.mapM f = .ok results ↔ List.Forall₂ (fun item result => f item = .ok result) items
      results := by
  induction items generalizing results with
  | nil =>
    rw [List.mapM_nil, pure_eq_ok_iff, List.forall₂_nil_left_iff, eq_comm]
  | cons item rest ih =>
    simp only [List.mapM_cons, bind_eq_ok_iff, pure_eq_ok_iff, ih, List.forall₂_cons_left_iff]
    constructor
    · rintro ⟨result, first, others, second, rfl⟩
      exact ⟨result, others, first, second, rfl⟩
    · rintro ⟨result, others, first, second, rfl⟩
      exact ⟨result, first, others, second, rfl⟩

theorem mapM_eq_error {ε α β : Type} {f : α → Except ε β} {items : List α} {e : ε}
    (h : items.mapM f = .error e) : ∃ item ∈ items, f item = .error e := by
  induction items with
  | nil => cases h
  | cons item rest ih =>
    rw [List.mapM_cons, bind_eq_error_iff] at h
    rcases h with here | ⟨result, -, h⟩
    · exact ⟨item, List.mem_cons_self, here⟩
    · obtain ⟨other, mem, there⟩ := ih (bind_pure_eq_error_iff.mp h)
      exact ⟨other, List.mem_cons_of_mem item mem, there⟩

/-- Something is related to every item of a list as soon as each item is related to something. -/
theorem exists_forall₂_iff {α β : Type} {related : α → β → Prop} {items : List α} :
    (∃ results, List.Forall₂ related items results) ↔ ∀ item ∈ items, ∃ b, related item b := by
  induction items with
  | nil => simp
  | cons item rest ih =>
    simp only [List.forall₂_cons_left_iff, List.forall_mem_cons, ← ih]
    constructor
    · rintro ⟨_, result, others, first, second, rfl⟩
      exact ⟨⟨result, first⟩, others, second⟩
    · rintro ⟨⟨result, first⟩, others, second⟩
      exact ⟨_, result, others, first, second, rfl⟩

/-- What an item is related to stands among the results. -/
theorem exists_mem_of_forall₂ {α β : Type} {related : α → β → Prop} {items : List α}
    {results : List β} {item : α} (h : List.Forall₂ related items results) (mem : item ∈ items) :
    ∃ result ∈ results, related item result := by
  induction h with
  | nil => cases mem
  | @cons other result rest others first _ ih =>
    rcases List.mem_cons.mp mem with rfl | later
    · exact ⟨result, List.mem_cons_self, first⟩
    · obtain ⟨found, there, held⟩ := ih later
      exact ⟨found, List.mem_cons_of_mem result there, held⟩

/-- What holds of the items of a list exactly if it holds of what they are related to. -/
theorem forall_mem_iff_of_forall₂ {α β : Type} {related : α → β → Prop} {P : α → Prop} {Q : β → Prop}
    {items : List α} {results : List β} (h : List.Forall₂ related items results)
    (same : ∀ item ∈ items, ∀ result, related item result → (Q result ↔ P item)) :
    (∀ result ∈ results, Q result) ↔ ∀ item ∈ items, P item := by
  induction h with
  | nil => simp
  | cons first _ ih =>
    rw [List.forall_mem_cons, List.forall_mem_cons, same _ List.mem_cons_self _ first,
      ih fun item mem => same item (List.mem_cons_of_mem _ mem)]

theorem bind_append_eq_ok_iff {ε α β : Type} {x : Except ε α} {f : α → List β}
    {y : Except ε (List β)} {results : List β} :
    (do let a ← x; let others ← y; return f a ++ others) = .ok results ↔
      ∃ own others, x.map f = .ok own ∧ y = .ok others ∧ own ++ others = results := by
  simp only [bind_eq_ok_iff, pure_eq_ok_iff, map_eq_ok_iff]
  constructor
  · rintro ⟨a, first, others, second, rfl⟩
    exact ⟨_, others, ⟨a, first, rfl⟩, second, rfl⟩
  · rintro ⟨_, others, ⟨a, first, rfl⟩, second, rfl⟩
    exact ⟨a, first, others, second, rfl⟩

/-- What a list compiles to, if it compiles item by item and the results are put in a row, splits as
the list does. `step` says what a single item compiles to. -/
theorem append_eq_ok_iff {ε α β : Type} {compile : List α → Except ε (List β)}
    {step : α → List β → Prop} (nil : compile [] = .ok [])
    (cons : ∀ item rest results, compile (item :: rest) = .ok results ↔
      ∃ own others, step item own ∧ compile rest = .ok others ∧ own ++ others = results)
    {items more : List α} {results : List β} :
    compile (items ++ more) = .ok results ↔
      ∃ before after, compile items = .ok before ∧ compile more = .ok after ∧
        before ++ after = results := by
  induction items generalizing results with
  | nil => simp [nil]
  | cons item rest ih =>
    simp only [List.cons_append, cons, ih]
    constructor
    · rintro ⟨own, _, first, ⟨before, after, hb, ha, rfl⟩, rfl⟩
      exact ⟨_, after, ⟨own, before, first, hb, rfl⟩, ha, List.append_assoc ..⟩
    · rintro ⟨_, after, ⟨own, before, first, hb, rfl⟩, ha, rfl⟩
      exact ⟨own, _, first, ⟨before, after, hb, ha, rfl⟩, (List.append_assoc ..).symm⟩

/-- A list compiles if each of its items does. -/
theorem exists_eq_ok_iff {ε α β : Type} {compile : List α → Except ε (List β)}
    {step : α → List β → Prop} (nil : compile [] = .ok [])
    (cons : ∀ item rest results, compile (item :: rest) = .ok results ↔
      ∃ own others, step item own ∧ compile rest = .ok others ∧ own ++ others = results)
    {items : List α} :
    (∃ results, compile items = .ok results) ↔ ∀ item ∈ items, ∃ own, step item own := by
  induction items with
  | nil => simp [nil]
  | cons item rest ih =>
    simp only [cons, List.forall_mem_cons, ← ih]
    constructor
    · rintro ⟨_, own, others, first, compiled, -⟩
      exact ⟨⟨own, first⟩, others, compiled⟩
    · rintro ⟨⟨own, first⟩, others, compiled⟩
      exact ⟨_, own, others, first, compiled, rfl⟩

/-- A list whose items come to at most one result each comes to the results that there are, in their
order. -/
theorem reduceOption_eq_ok_iff {ε α β : Type} {compile : List α → Except ε (List β)}
    {run : α → Except ε (Option β)} (nil : compile [] = .ok [])
    (cons : ∀ item rest results, compile (item :: rest) = .ok results ↔
      ∃ own others, (run item).map Option.toList = .ok own ∧ compile rest = .ok others ∧
        own ++ others = results)
    {items : List α} {results : List β} :
    compile items = .ok results ↔
      ∃ found, List.Forall₂ (fun item part => run item = .ok part) items found ∧
        found.reduceOption = results := by
  induction items generalizing results with
  | nil => simp [nil, eq_comm]
  | cons item rest ih =>
    simp only [cons, map_eq_ok_iff, ih, List.forall₂_cons_left_iff]
    constructor
    · rintro ⟨_, _, ⟨part, first, rfl⟩, ⟨found, others, rfl⟩, rfl⟩
      refine ⟨part :: found, ⟨part, found, first, others, rfl⟩, ?_⟩
      cases part <;> simp
    · rintro ⟨_, ⟨part, found, first, others, rfl⟩, rfl⟩
      refine ⟨_, _, ⟨part, first, rfl⟩, ⟨found, others, rfl⟩, ?_⟩
      cases part <;> simp

theorem Operand.compileEmbedded_of_some {operand : Operand} {query : Query}
    (h : operand.embedded? = some query) (compile : Query → Except Fault (Option QueryTree)) :
    operand.compileEmbedded compile = compile query := by
  rw [compileEmbedded, h]

/-- Whether a criterion has a fragment of its own, apart from what is nested in it. -/
def Criterion.contributes (criterion : Criterion) : Bool :=
  criterion.field.isSome && !criterion.queryEntries.isEmpty

/-- The first criterion of a chain that has a fragment of its own. -/
def Criteria.lead? (criteria : Criteria) : Option Criterion :=
  criteria.chain.find? Criterion.contributes

/-- Asks that a field is there. -/
def Criterion.present (name : String) (joiner : Connective) (negated : Bool) : Criterion :=
  { Criterion.on (.named name) with joiner, negated, queryEntries := [⟨.present, .null⟩] }

/-- A tree is moved to the nested documents that a field lives in, or stays as it is if the field
does not live in any. -/
inductive ResolvedField.Encloses (field : ResolvedField) (scoreMode : ScoreMode) (inner : QueryTree) :
    QueryTree → Prop where
  | unmoved (flat : field.nestedPath = none) : Encloses field scoreMode inner inner
  | moved {path : String} (below : field.nestedPath = some path) :
      Encloses field scoreMode inner (.nested path inner scoreMode none)

namespace Compiler

/-- The compiler that takes every field for what the caller says it is. -/
def standard : Compiler :=
  { resolve := .identity, settings := .standard, embedding := .everyQuery }

variable {c : Compiler} {depth : Nat}

@[simp] theorem fragment_joiner (settings : Settings) (field : ResolvedField) (joiner : Connective)
    (negated : Bool) (boost : Option Double) (leaves : List QueryTree) :
    (fragment settings field joiner negated boost leaves).joiner = joiner := rfl

@[simp] theorem fragment_negated (settings : Settings) (field : ResolvedField) (joiner : Connective)
    (negated : Bool) (boost : Option Double) (leaves : List QueryTree) :
    (fragment settings field joiner negated boost leaves).negated = negated := rfl

/-- Criteria compile if they are not too deep and all that is in their chain compiles. -/
theorem criteriaAt_eq_ok_iff {criteria : Criteria} {query : Option QueryTree} :
    c.criteriaAt depth criteria = .ok query ↔
      depth ≤ c.settings.maxDepth ∧ ∃ own nested, c.fragmentsAt depth criteria.chain = .ok own ∧
        c.nestedAt depth criteria.chain = .ok nested ∧ Fragment.join own nested = query := by
  obtain ⟨chain⟩ := criteria
  rw [criteriaAt]
  split
  case isTrue deep =>
    simp only [reduceCtorEq, false_iff, not_and]
    intro allowed
    omega
  case isFalse allowed =>
    simp only [bind_eq_ok_iff, pure_eq_ok_iff, exists_and_left, Nat.not_lt.mp allowed, true_and]

/-- What the fragment of a criterion is, if the criterion compiles and has one. -/
theorem fragmentAt_cases {criterion : Criterion} {own : Option Fragment}
    (h : c.fragmentAt depth criterion = .ok own) :
    criterion.contributes = false ∧ own = none ∨
      criterion.contributes ∧ ∃ field leaves, criterion.field = some field ∧
        c.leavesAt depth (c.resolve field) criterion.queryEntries = .ok leaves ∧
        own = some (fragment c.settings (c.resolve field) criterion.joiner criterion.negated
          criterion.boost leaves) := by
  obtain ⟨field, joiner, negated, queryEntries, filterEntries, boost, nested⟩ := criterion
  cases field with
  | none =>
    rw [fragmentAt] at h
    split at h
    · exact .inl ⟨rfl, (Except.ok.inj h).symm⟩
    · cases h
  | some field =>
    cases queryEntries with
    | nil =>
      rw [fragmentAt] at h
      exact .inl ⟨rfl, (Except.ok.inj h).symm⟩
    | cons entry entries =>
      rw [fragmentAt, bind_eq_ok_iff] at h
      · obtain ⟨leaves, compiled, made⟩ := h
        exact .inr ⟨rfl, field, leaves, rfl, compiled, (pure_eq_ok_iff.mp made).symm⟩
      · exact List.cons_ne_nil entry entries

theorem fragmentsAt_cons_eq_ok_iff {criterion : Criterion} {rest : List Criterion}
    {fragments : List Fragment} :
    c.fragmentsAt depth (criterion :: rest) = .ok fragments ↔
      ∃ own others, (c.fragmentAt depth criterion).map Option.toList = .ok own ∧
        c.fragmentsAt depth rest = .ok others ∧ own ++ others = fragments := by
  rw [fragmentsAt]
  exact bind_append_eq_ok_iff

/-- The fragments of what is nested in a criterion are joined as the criterion is. -/
theorem nestedAt_cons_eq_ok_iff {criterion : Criterion} {rest : List Criterion}
    {fragments : List Fragment} :
    c.nestedAt depth (criterion :: rest) = .ok fragments ↔
      ∃ own others,
        (c.nestedListAt depth criterion.nested).map
          (List.map (fun query => ⟨query, criterion.joiner, criterion.negated⟩)) = .ok own ∧
        c.nestedAt depth rest = .ok others ∧ own ++ others = fragments := by
  obtain ⟨field, joiner, negated, queryEntries, filterEntries, boost, nested⟩ := criterion
  rw [nestedAt]
  exact bind_append_eq_ok_iff

theorem nestedListAt_cons_eq_ok_iff {criteria : Criteria} {rest : List Criteria}
    {queries : List QueryTree} :
    c.nestedListAt depth (criteria :: rest) = .ok queries ↔
      ∃ own others, (c.criteriaAt (depth + 1) criteria).map Option.toList = .ok own ∧
        c.nestedListAt depth rest = .ok others ∧ own ++ others = queries := by
  rw [nestedListAt]
  exact bind_append_eq_ok_iff

/-- What a query that is embedded in an operand compiles to, if it may be embedded there. -/
def subQueryAt (c : Compiler) (depth : Nat) (query : Query) : Except Fault (Option QueryTree) := do
  c.allowAt depth query.kind
  c.queryAt depth query

theorem embeddedAt_eq (operand : Operand) :
    c.embeddedAt depth operand = operand.compileEmbedded (c.subQueryAt depth) := by
  cases operand <;> simp only [embeddedAt] <;> rfl

theorem leavesAt_cons (field : ResolvedField) (entry : Entry) (rest : List Entry) :
    c.leavesAt depth field (entry :: rest) = (do
      let leaf ← Clause.build c.settings field entry
        (entry.operand.compileEmbedded (c.subQueryAt (depth + 1)))
      let others ← c.leavesAt depth field rest
      return leaf :: others) := by
  obtain ⟨operator, operand⟩ := entry
  rw [leavesAt, embeddedAt_eq]

/-- There is one predicate for each scoring entry, in their order. -/
theorem leavesAt_eq_ok_iff {field : ResolvedField} {entries : List Entry} {leaves : List QueryTree} :
    c.leavesAt depth field entries = .ok leaves ↔
      List.Forall₂ (fun entry leaf => Clause.build c.settings field entry
        (entry.operand.compileEmbedded (c.subQueryAt (depth + 1))) = .ok leaf) entries leaves := by
  induction entries generalizing leaves with
  | nil => rw [leavesAt, List.forall₂_nil_left_iff, Except.ok.injEq, eq_comm]
  | cons entry rest ih =>
    rw [leavesAt_cons]
    simp only [bind_eq_ok_iff, pure_eq_ok_iff, ih, List.forall₂_cons_left_iff]
    constructor
    · rintro ⟨leaf, first, others, second, rfl⟩
      exact ⟨leaf, others, first, second, rfl⟩
    · rintro ⟨leaf, others, first, second, rfl⟩
      exact ⟨leaf, first, others, second, rfl⟩

/-- The fragments of a longer chain are those of the chain and of what follows it. -/
theorem fragmentsAt_append_eq_ok_iff {chain more : List Criterion} {fragments : List Fragment} :
    c.fragmentsAt depth (chain ++ more) = .ok fragments ↔
      ∃ before after, c.fragmentsAt depth chain = .ok before ∧
        c.fragmentsAt depth more = .ok after ∧ before ++ after = fragments :=
  append_eq_ok_iff (by rw [fragmentsAt]) (fun _ _ _ => fragmentsAt_cons_eq_ok_iff)

theorem nestedAt_append_eq_ok_iff {chain more : List Criterion} {fragments : List Fragment} :
    c.nestedAt depth (chain ++ more) = .ok fragments ↔
      ∃ before after, c.nestedAt depth chain = .ok before ∧
        c.nestedAt depth more = .ok after ∧ before ++ after = fragments :=
  append_eq_ok_iff (by rw [nestedAt]) (fun _ _ _ => nestedAt_cons_eq_ok_iff)

end Compiler

end SearchCriteria
