import SearchCriteria.Proofs.Simulation

/-!
# Renaming and compilation

To rename the fields of a query and to compile it then is to compile the query as it is, with a
resolver that renames each field before it looks the field up. Renaming and compilation walk through a
query each on its own, and so this says that they come upon the same fields: none escapes the renaming,
none is renamed twice, and what is at fault is at fault either way.
-/

namespace SearchCriteria

/-- The resolver that looks each field up under the name that a table has for it, if it has one. -/
def Resolver.renamed (resolve : Resolver) (table : List (String × String)) : Resolver := fun field =>
  match Table.find? field.name table with
  | some name => resolve { field with name }
  | none => resolve field

theorem Resolver.renamed_apply (resolve : Resolver) (table : List (String × String))
    (field : Field) : resolve.renamed table field = resolve (field.rename table) := by
  rw [renamed, Field.rename]
  cases Table.find? field.name table <;> rfl

/-- Names can be swapped, since no name is looked up again. -/
example : [Field.named "a", .named "b", .named "c"].map (Resolver.identity.renamed
    [("a", "b"), ("b", "a")]) = [.named "b", .named "a", .named "c"].map Resolver.identity := by
  decide

/-- Renames the fields of the query that an operand embeds. -/
def Operand.rename (table : List (String × String)) : Operand → Operand
  | .hasChild type query scoreMode innerHits =>
    .hasChild type (query.rename table) scoreMode innerHits
  | .hasParent type query score innerHits => .hasParent type (query.rename table) score innerHits
  | operand => operand

def Entry.rename (table : List (String × String)) (entry : Entry) : Entry :=
  { entry with operand := entry.operand.rename table }

def Criterion.rename (table : List (String × String)) (criterion : Criterion) : Criterion :=
  { criterion with
    field := criterion.field.map (Field.rename table)
    queryEntries := criterion.queryEntries.map (Entry.rename table)
    nested := criterion.nested.map (Criteria.rename table) }

section Shape

variable (table : List (String × String))

@[simp] theorem Query.kind_rename (query : Query) : (query.rename table).kind = query.kind := by
  cases query <;> rfl

theorem Operand.compileEmbedded_rename (operand : Operand)
    (compile : Query → Except Fault (Option QueryTree)) :
    (operand.rename table).compileEmbedded compile =
      operand.compileEmbedded fun query => compile (query.rename table) := by
  cases operand <;> rfl

theorem Criteria.renameEntries_eq_map (entries : List Entry) :
    renameEntries table entries = entries.map (Entry.rename table) := by
  induction entries with
  | nil => rfl
  | cons entry rest ih =>
    obtain ⟨operator, operand⟩ := entry
    rw [List.map_cons, ← ih]
    cases operand <;> rfl

theorem Criteria.renameNested_eq_map (list : List Criteria) :
    renameNested table list = list.map (Criteria.rename table) := by
  induction list with
  | nil => rfl
  | cons criteria rest ih => rw [List.map_cons, ← ih, renameNested]

theorem Criteria.renameChain_eq_map (chain : List Criterion) :
    renameChain table chain = chain.map (Criterion.rename table) := by
  induction chain with
  | nil => rfl
  | cons criterion rest ih =>
    obtain ⟨field, joiner, negated, queryEntries, filterEntries, boost, nested⟩ := criterion
    rw [List.map_cons, ← ih, renameChain, renameEntries_eq_map, renameNested_eq_map]
    rfl

theorem Criteria.chain_rename (criteria : Criteria) :
    (criteria.rename table).chain = criteria.chain.map (Criterion.rename table) := by
  obtain ⟨chain⟩ := criteria
  rw [rename, renameChain_eq_map]

end Shape

/-- The query that a relationship embeds counts only for what it compiles to. -/
theorem Clause.build_rename (settings : Settings) (field : ResolvedField) (entry : Entry)
    (embedded : Except Fault (Option QueryTree)) (table : List (String × String)) :
    build settings field (entry.rename table) embedded = build settings field entry embedded := by
  obtain ⟨operator, operand⟩ := entry
  -- The check sees the kind and the count of an operand, which a renaming keeps.
  cases operand
  case hasChild =>
    rw [build_of_embedded rfl, build_of_embedded rfl]
    rfl
  case hasParent =>
    rw [build_of_embedded rfl, build_of_embedded rfl]
    rfl
  all_goals rfl

namespace Filter

variable {resolve : Resolver} {table : List (String × String)} {maxDepth : Nat}

theorem predicates_rename (field : Option Field) (entries : List Entry) :
    predicates resolve (field.map (Field.rename table)) entries =
      predicates (resolve.renamed table) field entries := by
  cases field <;> cases entries <;> simp only [Option.map_none, Option.map_some, predicates,
    Resolver.renamed_apply]

theorem ofCriteria_rename (depth : Nat) (criteria : Criteria) :
    ofCriteria resolve maxDepth depth (criteria.rename table) =
      ofCriteria (resolve.renamed table) maxDepth depth criteria := by
  induction criteria using Criteria.induction_on_nested generalizing depth with
  | step criteria ih =>
    apply ofCriteria_eq Iff.rfl
    rw [Criteria.chain_rename]
    refine forall₂_map_self fun owner mem => ?_
    refine ⟨rfl, rfl, predicates_rename owner.field owner.filterEntries, ?_⟩
    exact forall₂_map_self fun nested mem' => ih nested ⟨owner, mem, mem'⟩ (depth + 1)

end Filter

namespace Compiler

/-- The same compiler with a resolver that looks each field up under its name in a table. -/
def renamed (c : Compiler) (table : List (String × String)) : Compiler :=
  { c with resolve := c.resolve.renamed table }

theorem renamed_resolve (c : Compiler) (table : List (String × String)) (field : Field) :
    (c.renamed table).resolve field = c.resolve (field.rename table) :=
  c.resolve.renamed_apply table field

variable {c : Compiler} {table : List (String × String)} {depth : Nat}

theorem subQueryAt_rename {query : Query}
    (h : c.queryAt depth (query.rename table) = (c.renamed table).queryAt depth query) :
    c.subQueryAt depth (query.rename table) = (c.renamed table).subQueryAt depth query := by
  rw [subQueryAt, subQueryAt, Query.kind_rename, h]
  rfl

/-- An entry is built into the same, under whatever name the fields of its query are looked up. -/
theorem entriesRelated_rename {entry : Entry}
    (embedded : ∀ query, entry.operand.embedded? = some query →
      c.queryAt (depth + 1) (query.rename table) = (c.renamed table).queryAt (depth + 1) query) :
    EntriesRelated (fun _ x y => x = y) c (c.renamed table) depth depth (entry.rename table)
      entry := by
  intro field
  rw [Clause.build_rename, Entry.rename, Operand.compileEmbedded_rename]
  exact IsCongruence.eq.build c.settings field fun query found =>
    subQueryAt_rename (embedded query found)

theorem hereditary_rename (c : Compiler) (table : List (String × String)) :
    Hereditary
      (fun query => ∀ depth, c.queryAt depth (query.rename table) =
        (c.renamed table).queryAt depth query)
      (fun criteria => ∀ depth, c.criteriaAt depth (criteria.rename table) =
        (c.renamed table).criteriaAt depth criteria) where
  step criteria nests embeds depth := by
    have settings : c.settings = (c.renamed table).settings := rfl
    apply criteriaAt_related_of_corresponds .eq settings Iff.rfl
    rw [Criteria.chain_rename]
    refine forall₂_map_self fun owner mem => ⟨?_, rfl, rfl, rfl, ?_, fun _ => ?_, ?_⟩
    · have resolved : (c.renamed table).resolve = c.resolve ∘ Field.rename table :=
        funext (c.renamed_resolve table)
      rw [resolved, Criterion.rename, Option.map_map]
    · refine forall₂_map_self fun entry mem' => entriesRelated_rename fun query embedded => ?_
      exact embeds query ⟨owner, mem, entry, mem', embedded⟩ (depth + 1)
    · rw [Criterion.firstOperator?, Criterion.firstOperator?, Criterion.rename]
      cases owner.queryEntries <;> rfl
    · exact forall₂_map_self fun nested mem' => nests nested ⟨owner, mem, mem'⟩ (depth + 1)
  criteria criteria ih depth := by
    rw [Query.rename, queryAt, queryAt, ih, Filter.ofCriteria_rename]
    rfl
  wrapped query ih depth := by rw [Query.rename, queryAt, queryAt, ih]
  text source depth := by rw [Query.rename, queryAt, queryAt]
  native tree depth := by rw [Query.rename, queryAt, queryAt]
  template id params depth := by rw [Query.rename, queryAt, queryAt]

/-- Fields can be renamed in the query or as they are resolved: the result is the same, be it a tree
or a fault. -/
theorem dispatch_rename (c : Compiler) (table : List (String × String)) (query : Query) :
    c.dispatch query (Query.rename table) = (c.renamed table).dispatch query id :=
  (c.hereditary_rename table).holds_query query 0

end Compiler

end SearchCriteria
