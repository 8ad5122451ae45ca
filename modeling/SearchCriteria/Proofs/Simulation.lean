import SearchCriteria.Proofs.Nesting
import SearchCriteria.Proofs.Refusal

/-!
# Two compilations side by side

Two criteria are compiled, by compilers with the same settings that may embed different queries and
may be at different depths. What is made of the two is related as soon as their chains correspond,
criterion by criterion, and what is made of everything nested in them, and embedded in them, is
related. This holds of every relation that goes along with binding, so that what is done with
related results is related. Often the two criteria are the same, and then only what is nested and
embedded counts.

Filters are compiled to equal results for chains that correspond in the half that they look at.
-/

namespace SearchCriteria

/-- A relation between two results of one type that equal results have, and that is kept by doing
related things with related results. -/
structure IsCongruence (related : (α : Type) → Except Fault α → Except Fault α → Prop) : Prop where
  refl : ∀ {α : Type} (x : Except Fault α), related α x x
  bind : ∀ {α β : Type} {x y : Except Fault α} {f g : α → Except Fault β}, related α x y →
    (∀ a, related β (f a) (g a)) → related β (x >>= f) (y >>= g)

namespace IsCongruence

variable {related : (α : Type) → Except Fault α → Except Fault α → Prop}

theorem eq : IsCongruence fun _ x y => x = y where
  refl _ := rfl
  bind same same' := by
    rw [same, funext same']

theorem map {α β : Type} {x y : Except Fault α} (h : IsCongruence related) (f : α → β)
    (first : related α x y) : related β (x.map f) (y.map f) := by
  have mapped (z : Except Fault α) : z.map f = z >>= fun a => .ok (f a) := by cases z <;> rfl
  rw [mapped, mapped]
  exact h.bind first fun a => h.refl _

/-- A scoring entry is built into related results if the query that is embedded in it is compiled to
such. -/
theorem build (h : IsCongruence related) (settings : Settings) (field : ResolvedField)
    {entry : Entry} {first second : Query → Except Fault (Option QueryTree)}
    (embedded : ∀ query, entry.operand.embedded? = some query →
      related _ (first query) (second query)) :
    related _ (Clause.build settings field entry (entry.operand.compileEmbedded first))
      (Clause.build settings field entry (entry.operand.compileEmbedded second)) := by
  cases found : entry.operand.embedded? with
  | none =>
    rw [Operand.compileEmbedded, Operand.compileEmbedded, found]
    exact h.refl _
  | some query =>
    rw [Clause.build_compileEmbedded found, Clause.build_compileEmbedded found]
    exact h.bind (h.refl _) fun _ => h.map _ (embedded query found)

end IsCongruence

/-- Two lists correspond if one is made of the other, item by item. -/
theorem forall₂_map_self {α : Type} {related : α → α → Prop} {edit : α → α} {items : List α}
    (each : ∀ item ∈ items, related (edit item) item) :
    List.Forall₂ related (items.map edit) items :=
  List.forall₂_map_left_iff.mpr (List.forall₂_same.mpr each)

namespace Criterion

/-- The operator of the first entry of a criterion, which is to blame if there is no field for it.
-/
def firstOperator? (criterion : Criterion) : Option Operator :=
  (criterion.queryEntries ++ criterion.filterEntries).head?.map Entry.operator

end Criterion

namespace Compiler

variable {related : (α : Type) → Except Fault α → Except Fault α → Prop}
variable {c c' : Compiler} {depth depth' : Nat}

/-- Two compilers differ at most in the queries that they embed. -/
structure Alike (c c' : Compiler) : Prop where
  resolve : c.resolve = c'.resolve
  settings : c.settings = c'.settings

theorem Alike.refl (c : Compiler) : c.Alike c := ⟨rfl, rfl⟩

/-- Two scoring entries are built into related results, on whatever field. -/
def EntriesRelated (related : (α : Type) → Except Fault α → Except Fault α → Prop)
    (c c' : Compiler) (depth depth' : Nat) (entry entry' : Entry) : Prop :=
  ∀ field, related _
    (Clause.build c.settings field entry
      (entry.operand.compileEmbedded (c.subQueryAt (depth + 1))))
    (Clause.build c'.settings field entry'
      (entry'.operand.compileEmbedded (c'.subQueryAt (depth' + 1))))

/-- Two criteria stand for the same in their chains: they are on the same field and are joined
alike, their entries are built into related results, and so are the criteria nested in them. -/
structure Corresponds (related : (α : Type) → Except Fault α → Except Fault α → Prop)
    (c c' : Compiler) (depth depth' : Nat) (one other : Criterion) : Prop where
  field : one.field.map c.resolve = other.field.map c'.resolve
  joiner : one.joiner = other.joiner
  negated : one.negated = other.negated
  boost : one.boost = other.boost
  entries : List.Forall₂ (EntriesRelated related c c' depth depth') one.queryEntries
    other.queryEntries
  blamed : one.field = none → one.firstOperator? = other.firstOperator?
  nested : List.Forall₂ (fun inner inner' => related _ (c.criteriaAt (depth + 1) inner)
    (c'.criteriaAt (depth' + 1) inner')) one.nested other.nested

theorem fragmentAt_of_field_none {criterion : Criterion} (h : criterion.field = none) :
    c.fragmentAt depth criterion =
      match criterion.firstOperator? with
      | none => .ok none
      | some operator => .error (.missingField operator.label) := by
  obtain ⟨field, joiner, negated, queryEntries, filterEntries, boost, nested⟩ := criterion
  cases h
  rw [fragmentAt, Criterion.firstOperator?]
  cases queryEntries ++ filterEntries <;> rfl

theorem fragmentAt_of_field {criterion : Criterion} {field : Field}
    (h : criterion.field = some field) :
    c.fragmentAt depth criterion =
      if criterion.queryEntries = [] then .ok none
      else do
        let leaves ← c.leavesAt depth (c.resolve field) criterion.queryEntries
        return some (fragment c.settings (c.resolve field) criterion.joiner criterion.negated
          criterion.boost leaves) := by
  obtain ⟨_, joiner, negated, queryEntries, filterEntries, boost, nested⟩ := criterion
  cases h
  cases queryEntries with
  | nil => rw [fragmentAt, if_pos rfl]
  | cons entry rest =>
    rw [if_neg (List.cons_ne_nil entry rest), fragmentAt]
    exact List.cons_ne_nil entry rest

theorem leavesAt_related (h : IsCongruence related) (field : ResolvedField)
    {entries entries' : List Entry}
    (each : List.Forall₂ (EntriesRelated related c c' depth depth') entries entries') :
    related _ (c.leavesAt depth field entries) (c'.leavesAt depth' field entries') := by
  induction each with
  | nil =>
    rw [leavesAt, leavesAt]
    exact h.refl _
  | cons first _ ih =>
    rw [leavesAt_cons, leavesAt_cons]
    apply h.bind (first field)
    intro leaf
    exact h.bind ih fun _ => h.refl _

theorem fragmentAt_related (h : IsCongruence related) (settings : c.settings = c'.settings)
    {one other : Criterion} (same : Corresponds related c c' depth depth' one other) :
    related _ (c.fragmentAt depth one) (c'.fragmentAt depth' other) := by
  have fields := same.field
  cases named : one.field with
  | none =>
    have named' : other.field = none := by simpa [named] using fields.symm
    rw [fragmentAt_of_field_none named, fragmentAt_of_field_none named', same.blamed named]
    exact h.refl _
  | some field =>
    obtain ⟨field', named', resolved⟩ : ∃ field', other.field = some field' ∧
        c'.resolve field' = c.resolve field := by simpa [named] using fields.symm
    have empty : one.queryEntries = [] ↔ other.queryEntries = [] := by
      rw [← List.length_eq_zero_iff, same.entries.length_eq, List.length_eq_zero_iff]
    rw [fragmentAt_of_field named, fragmentAt_of_field named', resolved, settings, same.joiner,
      same.negated, same.boost]
    by_cases none : other.queryEntries = []
    · rw [if_pos none, if_pos (empty.mpr none)]
      exact h.refl _
    · rw [if_neg none, if_neg (mt empty.mp none)]
      exact h.bind (leavesAt_related h _ same.entries) fun _ => h.refl _

theorem fragmentsAt_related (h : IsCongruence related) (settings : c.settings = c'.settings)
    {chain chain' : List Criterion}
    (each : List.Forall₂ (Corresponds related c c' depth depth') chain chain') :
    related _ (c.fragmentsAt depth chain) (c'.fragmentsAt depth' chain') := by
  induction each with
  | nil =>
    rw [fragmentsAt, fragmentsAt]
    exact h.refl _
  | cons same _ ih =>
    rw [fragmentsAt, fragmentsAt]
    apply h.bind (fragmentAt_related h settings same)
    intro own
    exact h.bind ih fun _ => h.refl _

theorem nestedListAt_related (h : IsCongruence related) {list list' : List Criteria}
    (each : List.Forall₂ (fun inner inner' => related _ (c.criteriaAt (depth + 1) inner)
      (c'.criteriaAt (depth' + 1) inner')) list list') :
    related _ (c.nestedListAt depth list) (c'.nestedListAt depth' list') := by
  induction each with
  | nil =>
    rw [nestedListAt, nestedListAt]
    exact h.refl _
  | cons first _ ih =>
    rw [nestedListAt, nestedListAt]
    apply h.bind first
    intro tree
    exact h.bind ih fun _ => h.refl _

theorem nestedAt_related (h : IsCongruence related) {chain chain' : List Criterion}
    (each : List.Forall₂ (Corresponds related c c' depth depth') chain chain') :
    related _ (c.nestedAt depth chain) (c'.nestedAt depth' chain') := by
  induction each with
  | nil =>
    rw [nestedAt, nestedAt]
    exact h.refl _
  | @cons one other _ _ same _ ih =>
    have joiner := same.joiner
    have negated := same.negated
    have nested := nestedListAt_related h same.nested
    obtain ⟨_, _, _, _, _, _, nested⟩ := one
    obtain ⟨_, _, _, _, _, _, nested'⟩ := other
    dsimp only at joiner negated
    rw [nestedAt, nestedAt, joiner, negated]
    apply h.bind nested
    intro trees
    exact h.bind ih fun _ => h.refl _

/-- Two compilations of criteria are related if they are refused together for their depth, and the
chains of the criteria correspond. -/
theorem criteriaAt_related_of_corresponds (h : IsCongruence related)
    (settings : c.settings = c'.settings) {criteria criteria' : Criteria}
    (together : c'.settings.maxDepth < depth ↔ c'.settings.maxDepth < depth')
    (each : List.Forall₂ (Corresponds related c c' depth depth') criteria.chain criteria'.chain) :
    related _ (c.criteriaAt depth criteria) (c'.criteriaAt depth' criteria') := by
  obtain ⟨chain⟩ := criteria
  obtain ⟨chain'⟩ := criteria'
  rw [criteriaAt, criteriaAt, settings]
  by_cases deep : c'.settings.maxDepth < depth
  · rw [if_pos deep, if_pos (together.mp deep)]
    exact h.refl _
  · rw [if_neg deep, if_neg (mt together.mpr deep)]
    apply h.bind (fragmentsAt_related h settings each)
    intro own
    exact h.bind (nestedAt_related h each) fun _ => h.refl _

/-- Two compilations of the same criteria are related if they are refused together for their depth,
and what is embedded in the criteria, or nested in them, is compiled to related results. -/
theorem criteriaAt_related (h : IsCongruence related) (alike : c.Alike c') {criteria : Criteria}
    (together : c'.settings.maxDepth < depth ↔ c'.settings.maxDepth < depth')
    (embedded : ∀ query, criteria.Embeds query →
      related _ (c.subQueryAt (depth + 1) query) (c'.subQueryAt (depth' + 1) query))
    (below : ∀ nested, criteria.Nests nested →
      related _ (c.criteriaAt (depth + 1) nested) (c'.criteriaAt (depth' + 1) nested)) :
    related _ (c.criteriaAt depth criteria) (c'.criteriaAt depth' criteria) := by
  rw [Criteria.forall_embeds_iff] at embedded
  rw [Criteria.forall_nests_iff] at below
  refine criteriaAt_related_of_corresponds h alike.settings together ?_
  refine List.forall₂_same.mpr fun owner mem => ?_
  refine ⟨by rw [alike.resolve], rfl, rfl, rfl, ?_, fun _ => rfl, ?_⟩
  · refine List.forall₂_same.mpr fun entry mem' field => ?_
    rw [alike.settings]
    exact h.build c'.settings field (embedded owner mem entry mem')
  · exact List.forall₂_same.mpr (below owner mem)

/-- The filter of criteria is the same for both, so only the scoring trees count. -/
theorem queryAt_criteria_related (h : IsCongruence related) (alike : c.Alike c')
    {criteria : Criteria}
    (scoring : related _ (c.criteriaAt depth criteria) (c'.criteriaAt depth' criteria)) :
    related _ (c.queryAt depth (.criteria criteria)) (c'.queryAt depth' (.criteria criteria)) := by
  rw [queryAt, queryAt, alike.resolve, alike.settings]
  exact h.bind scoring fun _ => h.refl _

end Compiler

namespace Filter

variable {resolve resolve' : Resolver} {maxDepth depth depth' : Nat}

/-- Two criteria stand for the same in the filters of their chains. -/
structure Corresponds (resolve resolve' : Resolver) (maxDepth depth depth' : Nat)
    (one other : Criterion) : Prop where
  joiner : one.joiner = other.joiner
  negated : one.negated = other.negated
  own : predicates resolve one.field one.filterEntries =
    predicates resolve' other.field other.filterEntries
  nested : List.Forall₂ (fun inner inner' => ofCriteria resolve maxDepth (depth + 1) inner =
    ofCriteria resolve' maxDepth (depth' + 1) inner') one.nested other.nested

theorem ofNested_eq {list list' : List Criteria}
    (each : List.Forall₂ (fun inner inner' => ofCriteria resolve maxDepth (depth + 1) inner =
      ofCriteria resolve' maxDepth (depth' + 1) inner') list list') :
    ofNested resolve maxDepth depth list = ofNested resolve' maxDepth depth' list' := by
  induction each with
  | nil => rw [ofNested, ofNested]
  | cons first _ ih => rw [ofNested, ofNested, first, ih]

theorem ofChain_eq {chain chain' : List Criterion}
    (each : List.Forall₂ (Corresponds resolve resolve' maxDepth depth depth') chain chain') :
    ofChain resolve maxDepth depth chain = ofChain resolve' maxDepth depth' chain' := by
  induction each with
  | nil => rw [ofChain, ofChain]
  | @cons one other _ _ same _ ih =>
    have joiner := same.joiner
    have negated := same.negated
    have own := same.own
    have nested := ofNested_eq same.nested
    obtain ⟨_, _, _, _, _, _, _⟩ := one
    obtain ⟨_, _, _, _, _, _, _⟩ := other
    dsimp only at joiner negated own nested
    rw [ofChain, ofChain, joiner, negated, own, nested, ih]

/-- Two filters are the same if they are refused together for their depth, and the chains of the
criteria correspond. -/
theorem ofCriteria_eq {criteria criteria' : Criteria}
    (together : maxDepth < depth ↔ maxDepth < depth')
    (each : List.Forall₂ (Corresponds resolve resolve' maxDepth depth depth') criteria.chain
      criteria'.chain) :
    ofCriteria resolve maxDepth depth criteria = ofCriteria resolve' maxDepth depth' criteria' := by
  obtain ⟨chain⟩ := criteria
  obtain ⟨chain'⟩ := criteria'
  rw [ofCriteria, ofCriteria, ofChain_eq each]
  exact if_congr together rfl rfl

end Filter

end SearchCriteria
