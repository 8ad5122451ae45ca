import SearchCriteria.Criteria.Building
import SearchCriteria.Proofs.Arrangement
import SearchCriteria.Proofs.Extension

/-!
# Longer chains

A chain that gets one more criterion at its end keeps the fragments it has, and all that are added
are joined as the criterion is. So a criterion that is joined with AND takes documents away unless
it releases alternatives, and one that is joined with OR adds some unless it makes an alternative
necessary. Which of these it is can be read off the chain, its scoring tree and the criterion.
-/

namespace SearchCriteria

namespace Compiler

variable {c : Compiler} {depth : Nat} {criteria : Criteria} {n : Criterion}

/-- Whether something nested in a criterion of the outermost chain compiles to a query. -/
def NestsQuery (c : Compiler) (n : Criterion) : Prop :=
  ∃ nested ∈ n.nested, ∃ tree, c.criteriaAt 1 nested = .ok (some tree)

theorem fragmentAt_isSome {own : Option Fragment} (h : c.fragmentAt depth n = .ok own) :
    own.isSome = n.contributes := by
  rcases fragmentAt_cases h with ⟨silent, rfl⟩ | ⟨contributes, _, _, _, _, rfl⟩
  · exact silent.symm
  · exact contributes.symm

theorem fragmentAt_alike {own : Option Fragment} (h : c.fragmentAt depth n = .ok own) :
    ∀ f ∈ own, f.joiner = n.joiner ∧ f.negated = n.negated := by
  rcases fragmentAt_cases h with ⟨_, rfl⟩ | ⟨_, _, _, _, _, rfl⟩
  · exact nofun
  · rintro _ ⟨⟩
    exact ⟨fragment_joiner .., fragment_negated ..⟩

/-- The first fragment is that of the first criterion that has one. -/
theorem fragmentsAt_head? {chain : List Criterion} {own : List Fragment}
    (h : c.fragmentsAt depth chain = .ok own) :
    own.head?.map Fragment.negated = (chain.find? Criterion.contributes).map Criterion.negated := by
  induction chain generalizing own with
  | nil =>
    rw [fragmentsAt] at h
    cases h
    rfl
  | cons criterion rest ih =>
    obtain ⟨_, others, first, compiled, rfl⟩ := fragmentsAt_cons_eq_ok_iff.mp h
    obtain ⟨own, compiled', rfl⟩ := map_eq_ok_iff.mp first
    have shown := fragmentAt_isSome compiled'
    cases own with
    | none =>
      rw [List.find?_cons_of_neg (by simp [← shown])]
      exact ih compiled
    | some f =>
      rw [List.find?_cons_of_pos (by simp [← shown])]
      exact congrArg some (fragmentAt_alike compiled' f rfl).2

theorem nestedListAt_ne_nil_iff {list : List Criteria} {queries : List QueryTree}
    (h : c.nestedListAt depth list = .ok queries) :
    queries ≠ [] ↔ ∃ nested ∈ list, ∃ tree, c.criteriaAt (depth + 1) nested = .ok (some tree) := by
  induction list generalizing queries with
  | nil =>
    rw [nestedListAt] at h
    cases h
    simp
  | cons criteria rest ih =>
    obtain ⟨_, others, first, compiled, rfl⟩ := nestedListAt_cons_eq_ok_iff.mp h
    obtain ⟨query, compiled', rfl⟩ := map_eq_ok_iff.mp first
    simp only [List.mem_cons, exists_eq_or_imp, ← ih compiled, compiled']
    cases query <;> simp

/-- What a criterion brings to the end of a chain: its own fragment, if it contributes one, and the
trees of what is nested in it. -/
structure Brings (c : Compiler) (n : Criterion) (own : Option QueryTree) (below : List QueryTree) :
    Prop where
  contributes : own.isSome = n.contributes
  fragment : ∀ tree ∈ own, c.IsFragmentOf 0 n tree
  nested : ∃ trees, List.Forall₂ (fun nested tree => c.compile nested = .ok tree) n.nested trees ∧
    trees.reduceOption = below

/-- What the scoring trees of a chain and of the chain with one more criterion are made of. -/
structure Appends (c : Compiler) (criteria : Criteria) (n : Criterion) (own nested : List Fragment)
    (extra : Option Fragment) (more : List Fragment) : Prop where
  nonempty : own ++ nested ≠ []
  lead : own.head?.map Fragment.negated = criteria.lead?.map Criterion.negated
  itself : extra.isSome = n.contributes
  below : more ≠ [] ↔ c.NestsQuery n
  alike : ∀ f ∈ extra.toList ++ more, f.joiner = n.joiner ∧ f.negated = n.negated
  brings : c.Brings n (extra.map Fragment.query) (more.map Fragment.query)

theorem fragmentsAt_singleton {own : List Fragment} (h : c.fragmentsAt depth [n] = .ok own) :
    ∃ f, c.fragmentAt depth n = .ok f ∧ own = f.toList := by
  obtain ⟨_, _, first, rest, rfl⟩ := fragmentsAt_cons_eq_ok_iff.mp h
  obtain ⟨f, compiled, rfl⟩ := map_eq_ok_iff.mp first
  rw [fragmentsAt] at rest
  cases rest
  exact ⟨f, compiled, List.append_nil _⟩

theorem nestedAt_singleton {more : List Fragment} (h : c.nestedAt depth [n] = .ok more) :
    ∃ queries, c.nestedListAt depth n.nested = .ok queries ∧
      more = queries.map fun query => ⟨query, n.joiner, n.negated⟩ := by
  obtain ⟨_, _, first, rest, rfl⟩ := nestedAt_cons_eq_ok_iff.mp h
  obtain ⟨queries, compiled, rfl⟩ := map_eq_ok_iff.mp first
  rw [nestedAt] at rest
  cases rest
  exact ⟨queries, compiled, List.append_nil _⟩

theorem brings_of_compiled {extra : Option Fragment} {queries : List QueryTree}
    (itself : c.fragmentAt 0 n = .ok extra) (below : c.nestedListAt 0 n.nested = .ok queries) :
    c.Brings n (extra.map Fragment.query) queries := by
  obtain ⟨trees, compiled, found⟩ := nestedListAt_eq_ok_iff.mp below
  refine ⟨?_, fun tree mem => ?_, trees, compiled.imp fun _ _ => compile_of_criteriaAt, found⟩
  · rw [Option.isSome_map, fragmentAt_isSome itself]
  · obtain ⟨f, shown, rfl⟩ := Option.map_eq_some_iff.mp mem
    exact isFragmentOf_of_fragmentAt itself f shown

theorem compile_append {tree : QueryTree} {result : Option QueryTree}
    (h : c.compile criteria = .ok (some tree)) (h' : c.compile (criteria.append n) = .ok result) :
    ∃ own nested extra more, c.Appends criteria n own nested extra more ∧
      tree = .bool (Fragment.joined own nested) ∧
      result = some (.bool (Fragment.joined (own ++ extra.toList) (nested ++ more))) := by
  obtain ⟨-, own, nested, compiled, compiled', join⟩ := criteriaAt_eq_ok_iff.mp h
  obtain ⟨-, _, _, longer, longer', rfl⟩ := criteriaAt_eq_ok_iff.mp h'
  obtain ⟨_, _, again, last, rfl⟩ := fragmentsAt_append_eq_ok_iff.mp longer
  obtain ⟨_, more, again', last', rfl⟩ := nestedAt_append_eq_ok_iff.mp longer'
  cases compiled.symm.trans again
  cases compiled'.symm.trans again'
  obtain ⟨extra, itself, rfl⟩ := fragmentsAt_singleton last
  obtain ⟨queries, below, more_eq⟩ := nestedAt_singleton last'
  rw [Fragment.join_eq_joined] at join
  have nonempty : own ++ nested ≠ [] := fun empty => by
    rw [if_pos empty] at join
    cases join
  rw [if_neg nonempty] at join
  refine ⟨own, nested, extra, more, ?_, (Option.some_inj.mp join).symm, ?_⟩
  · refine ⟨nonempty, fragmentsAt_head? compiled, fragmentAt_isSome itself, ?_, fun f hf => ?_, ?_⟩
    · rw [NestsQuery, ← nestedListAt_ne_nil_iff below, more_eq, ne_eq, List.map_eq_nil_iff]
    · rcases List.mem_append.mp hf with own | nested
      · exact fragmentAt_alike itself f (Option.mem_toList.mp own)
      · rw [more_eq] at nested
        obtain ⟨query, -, rfl⟩ := List.mem_map.mp nested
        exact ⟨rfl, rfl⟩
    · have same : more.map Fragment.query = queries := by simp [more_eq, Function.comp_def]
      exact same ▸ brings_of_compiled itself below
  · rw [Fragment.join_eq_joined, if_neg]
    intro empty
    simp only [List.append_eq_nil_iff] at empty
    exact nonempty (List.append_eq_nil_iff.mpr ⟨empty.1.1, empty.2.1⟩)

/-- A criterion that is joined with AND only takes documents away, unless it releases alternatives.
It does so because its own fragment becomes one of them, or because what it brings is all that has to
match. -/
theorem compile_append_and {tree : QueryTree} {result : Option QueryTree} (joiner : n.joiner = .and)
    (h : c.compile criteria = .ok (some tree)) (h' : c.compile (criteria.append n) = .ok result) :
    ∃ old new own below, tree = .bool old ∧ result = some (.bool new) ∧ c.Brings n own below ∧
      (¬ old.ReleasedBy (criteria.lead?.map Criterion.negated) n.contributes (c.NestsQuery n)
          n.negated →
        ∀ document, new.holds document → old.holds document) ∧
      (old.ReleasedBy (criteria.lead?.map Criterion.negated) n.contributes (c.NestsQuery n)
          n.negated →
        (old.Admits (criteria.lead?.map Criterion.negated) n.contributes (c.NestsQuery n) →
          ∃ only ∈ own, new = { old with should := only :: old.should }) ∧
        (¬ old.Admits (criteria.lead?.map Criterion.negated) n.contributes (c.NestsQuery n) →
          own.toList ++ below ≠ [] ∧
            new = (old.leadExcluded (criteria.lead?.map Criterion.negated)).requiring
              (own.toList ++ below))) := by
  obtain ⟨own, nested, extra, more, parts, rfl, rfl⟩ := compile_append h h'
  have alike : ∀ f ∈ extra.toList ++ more, f.joiner = .and ∧ f.negated = n.negated :=
    fun f hf => (parts.alike f hf).imp_left (·.trans joiner)
  refine ⟨_, _, _, _, rfl, rfl, parts.brings, ?_⟩
  rw [← parts.lead, ← parts.itself, ← parts.below, Option.toList_map, ← List.map_append]
  refine ⟨fun kept _ => Fragment.joined_holds_of_and alike kept, fun released => ⟨?_, ?_⟩⟩
  · intro admitted
    obtain ⟨f, shown, found⟩ := Fragment.joined_of_admits released.1 admitted
    exact ⟨f.query, Option.mem_map_of_mem _ shown, found⟩
  · exact Fragment.joined_of_releasedBy alike released

/-- Behind a first field that has to be there, alternatives are optional anyway. -/
theorem compile_append_and_required :
    ∃ old new,
      standard.compile ⟨[.present "a" .and false, .present "b" .or false, .present "c" .and false]⟩
        = .ok (some (.bool old)) ∧
      standard.compile (Criteria.append
        ⟨[.present "a" .and false, .present "b" .or false, .present "c" .and false]⟩
        (.present "d" .and true)) = .ok (some (.bool new)) ∧
      ∀ document, new.holds document → old.holds document := by
  have compiled : standard.compile ⟨[.present "a" .and false, .present "b" .or false,
    .present "c" .and false]⟩ = .ok (some _) := rfl
  have compiled' : standard.compile (Criteria.append
    ⟨[.present "a" .and false, .present "b" .or false, .present "c" .and false]⟩
    (.present "d" .and true)) = .ok (some _) := rfl
  obtain ⟨old, new, -, -, same, same', -, narrower, -⟩ := compile_append_and rfl compiled compiled'
  refine ⟨old, new, compiled.trans (by rw [same]), compiled'.trans (by rw [same']), narrower ?_⟩
  rintro ⟨-, lead, -⟩
  exact lead rfl

/-- A field that has to be there sets a document free that has none of the alternatives. -/
theorem not_compile_append_and :
    ∃ old new,
      standard.compile ⟨[{ Criterion.blank with
        joiner := .or, nested := [⟨[.present "a" .and false]⟩] }]⟩ = .ok (some old) ∧
      standard.compile (Criteria.append ⟨[{ Criterion.blank with
        joiner := .or, nested := [⟨[.present "a" .and false]⟩] }]⟩ (.present "b" .and false))
        = .ok (some new) ∧
      new.holds (Document.having ["b"]) ∧ ¬ old.holds (Document.having ["b"]) :=
  ⟨_, _, rfl, rfl, by decide, by decide⟩

/-- A criterion that is joined with OR only adds documents, unless it makes an alternative necessary.
It does so because its own fragment is the first one and goes in front of what has to match, or must
not, or because the chain has only excluded before. -/
theorem compile_append_or {tree : QueryTree} {result : Option QueryTree} (joiner : n.joiner = .or)
    (h : c.compile criteria = .ok (some tree)) (h' : c.compile (criteria.append n) = .ok result) :
    ∃ old new own below, tree = .bool old ∧ result = some (.bool new) ∧ c.Brings n own below ∧
      (¬ old.BoundBy (criteria.lead?.map Criterion.negated) n.contributes (c.NestsQuery n) →
        ∀ document, old.holds document → new.holds document) ∧
      (old.BoundBy (criteria.lead?.map Criterion.negated) n.contributes (c.NestsQuery n) →
        (criteria.lead? = none → n.contributes →
          ∃ first ∈ own, new = (old.offering below).leadBy n.negated first) ∧
        (¬ (criteria.lead? = none ∧ n.contributes) →
          new.NeedsAlternative ∧
            new = (old.leadAdmitted (criteria.lead?.map Criterion.negated)).offering
              (own.toList ++ below))) := by
  obtain ⟨own, nested, extra, more, parts, rfl, rfl⟩ := compile_append h h'
  have alike : ∀ f ∈ extra.toList ++ more, f.joiner = .or :=
    fun f hf => (parts.alike f hf).1.trans joiner
  refine ⟨_, _, _, _, rfl, rfl, parts.brings, ?_⟩
  rw [← Option.map_eq_none_iff (f := Criterion.negated), ← parts.lead, ← parts.itself, ← parts.below,
    Option.toList_map, ← List.map_append]
  refine ⟨fun kept _ => Fragment.joined_holds_of_or alike parts.nonempty kept,
    fun bound => ⟨?_, ?_⟩⟩
  · intro lead shown
    obtain ⟨f, mem, found⟩ := Fragment.joined_of_boundBy_first alike parts.nonempty bound lead shown
    have negated : f.negated = n.negated :=
      (parts.alike f (List.mem_append_left _ (Option.mem_toList.mpr mem))).2
    exact ⟨f.query, Option.mem_map_of_mem _ mem, negated ▸ found⟩
  · exact Fragment.joined_of_boundBy alike bound

/-- A chain with a field that has to be there gets an alternative to it. -/
theorem compile_append_or_required :
    ∃ old new, standard.compile ⟨[.present "a" .and false]⟩ = .ok (some (.bool old)) ∧
      standard.compile (Criteria.append ⟨[.present "a" .and false]⟩ (.present "b" .or false))
        = .ok (some (.bool new)) ∧
      ∀ document, old.holds document → new.holds document := by
  have compiled : standard.compile ⟨[.present "a" .and false]⟩ = .ok (some _) := rfl
  have compiled' : standard.compile (Criteria.append ⟨[.present "a" .and false]⟩
    (.present "b" .or false)) = .ok (some _) := rfl
  obtain ⟨old, new, -, -, same, same', -, wider, -⟩ := compile_append_or rfl compiled compiled'
  refine ⟨old, new, compiled.trans (by rw [same]), compiled'.trans (by rw [same']), wider ?_⟩
  cases same
  rintro (⟨-, must, -⟩ | ⟨lead, -⟩)
  · cases must
  · cases lead

/-- An alternative to a field that must not be there turns that field into an alternative. -/
theorem not_compile_append_or :
    ∃ old new, standard.compile ⟨[.present "a" .and true]⟩ = .ok (some old) ∧
      standard.compile (Criteria.append ⟨[.present "a" .and true]⟩ (.present "b" .or false))
        = .ok (some new) ∧
      old.holds (Document.having []) ∧ ¬ new.holds (Document.having []) :=
  ⟨_, _, rfl, rfl, by decide, by decide⟩

end Compiler

end SearchCriteria
