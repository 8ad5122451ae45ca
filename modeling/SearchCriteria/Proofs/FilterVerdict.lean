import SearchCriteria.Proofs.FilterCompilation
import SearchCriteria.Proofs.Verdict

/-!
# The verdict on a filter

A criterion that has something for the filter, predicates of its own or filters of what is nested in
it, asks for some of it if it is joined with OR, for nothing of it if it is negated, and for all of it
otherwise. A filter holds if every criterion of the chain gets what it asks for. Here this rule is
stated for truth values alone, by recursion through nested criteria and without a query tree, and it
is proved that the filter of criteria holds for exactly the documents that are judged so.

There is no filter only where no entry filters at any level. A single item stands for itself; several
are the clauses of one boolean query.
-/

namespace SearchCriteria

namespace Filter

/-- What a criterion asks of all that it has for the filter. -/
def accepts (joiner : Connective) (negated : Bool) (truths : List Bool) : Bool :=
  match joiner with
  | .or => truths.any id
  | .and => if negated then truths.all not else truths.all id

/-- The verdict on a chain, for the truth of what each criterion has. A criterion that has nothing
asks for nothing, and there is no verdict if no criterion asks for anything. -/
def conclude (chain : List Criterion) (truths : List (List Bool)) : Option Bool :=
  let asking := (chain.zip truths).filter fun x => !x.2.isEmpty
  if asking = [] then none else some (asking.all fun x => accepts x.1.joiner x.1.negated x.2)

/-- Whether a filtering entry holds on a resolved field. Of a predicate that is moved to nested
documents the document knows as a whole, and what cannot be built does not hold. -/
def entryHolds (document : Document) (field : ResolvedField) (entry : Entry) : Bool :=
  match GeoFilter.build field.name entry, field.nestedPath with
  | .ok predicate, none => document (.geo predicate)
  | .ok predicate, some path => document (.nested path (.geo predicate) .none none)
  | .error _, _ => false

/-- What a document says of the filtering entries of a criterion, one by one. -/
def ownTruths (resolve : Resolver) (document : Document) (field : Option Field)
    (entries : List Entry) : List Bool :=
  entries.map fun entry => field.any fun field => entryHolds document (resolve field) entry

mutual

/-- The verdict on the filter of criteria. There is none if nothing in them filters. -/
def verdict (resolve : Resolver) (document : Document) : Criteria → Option Bool
  | ⟨chain⟩ => conclude chain (truths resolve document chain)

/-- The truth of what each criterion of a chain has for the filter. -/
def truths (resolve : Resolver) (document : Document) : List Criterion → List (List Bool)
  | [] => []
  | ⟨field, _, _, _, filterEntries, _, nested⟩ :: rest =>
    (ownTruths resolve document field filterEntries ++ verdicts resolve document nested)
      :: truths resolve document rest

def verdicts (resolve : Resolver) (document : Document) : List Criteria → List Bool
  | [] => []
  | criteria :: rest =>
    (verdict resolve document criteria).toList ++ verdicts resolve document rest

end

variable {resolve : Resolver} {maxDepth depth : Nat} {document : Document}

theorem conclude_eq_some {chain : List Criterion} {truths : List (List Bool)} {holds : Bool}
    (h : conclude chain truths = some holds) :
    holds ↔ ∀ x ∈ chain.zip truths, x.2 ≠ [] → accepts x.1.joiner x.1.negated x.2 := by
  rw [conclude] at h
  split at h
  · cases h
  · cases h
    simp [List.all_eq_true, or_iff_not_imp_left]

/-- Predicates that filter are not boolean queries, so the document says whether they hold. -/
theorem entryHolds_eq {field : Option Field} {entry : Entry} {tree : QueryTree}
    (h : IsPredicateOf resolve field entry tree) :
    (field.any fun field => entryHolds document (resolve field) entry) = tree.holds document := by
  obtain ⟨f, rfl, predicate, built, encloses⟩ := h
  rw [Option.any_some, entryHolds, built]
  cases encloses with
  | unmoved flat => rw [flat, QueryTree.holds_geo]
  | moved below => rw [below, QueryTree.holds_nested]

theorem ownTruths_eq {field : Option Field} {entries : List Entry} {own : List QueryTree}
    (h : List.Forall₂ (IsPredicateOf resolve field) entries own) :
    ownTruths resolve document field entries = own.map (QueryTree.holds document) := by
  induction h with
  | nil => rfl
  | cons first _ ih => exact congrArg₂ List.cons (entryHolds_eq first) ih

theorem holds_alternatives {pieces : List QueryTree} (some : pieces ≠ []) :
    (QueryTree.bool { BoolQuery.none with should := pieces }).holds document
      = pieces.any (QueryTree.holds document) := by
  rw [QueryTree.holds_bool, Bool.eq_iff_iff, BoolQuery.IsPlain.holds_iff ⟨rfl, rfl⟩, List.any_eq_true]
  simp [BoolQuery.none, BoolQuery.NeedsAlternative, some]

/-- The items of a criterion hold together if the criterion gets what it asks for. -/
theorem items_all_holds {joiner : Connective} {negated : Bool} {pieces : List QueryTree}
    (some : pieces ≠ []) :
    (items joiner negated pieces).all (QueryTree.holds document)
      = accepts joiner negated (pieces.map (QueryTree.holds document)) := by
  cases joiner with
  | or => simp [items, accepts, some, holds_alternatives some, List.any_map]
  | and =>
    cases negated with
    | true => simp [items, accepts, List.all_map, Function.comp_def, QueryTree.holds_not]
    | false => simp [items, accepts, List.all_map]

theorem together_holds (found : List QueryTree) :
    (together found).map (QueryTree.holds document)
      = if found = [] then none else some (found.all (QueryTree.holds document)) := by
  cases found with
  | nil => rfl
  | cons item rest =>
    cases rest with
    | nil => simp [together]
    | cons second others =>
      simp only [together, Option.map_some, QueryTree.holds_bool, reduceCtorEq, if_false]
      exact congrArg some (Compiler.holds_group (item :: second :: others) none)

/-- The filter of a chain holds if the chain is judged so by the truth of its pieces. -/
theorem together_itemsOf_holds (document : Document) (chain : List Criterion)
    (pieces : List (List QueryTree)) :
    (together (itemsOf chain pieces)).map (QueryTree.holds document)
      = conclude chain (pieces.map (List.map (QueryTree.holds document))) := by
  have nothing : itemsOf chain pieces = [] ↔
      (chain.zip (pieces.map (List.map (QueryTree.holds document)))).filter
        (fun x => !x.2.isEmpty) = [] := by
    rw [itemsOf, List.flatMap_eq_nil_iff, List.filter_eq_nil_iff, List.zip_map_right,
      List.forall_mem_map]
    simp [items_eq_nil_iff]
  have all : (itemsOf chain pieces).all (QueryTree.holds document)
      = ((chain.zip (pieces.map (List.map (QueryTree.holds document)))).filter
          (fun x => !x.2.isEmpty)).all (fun x => accepts x.1.joiner x.1.negated x.2) := by
    rw [itemsOf, List.all_flatMap, List.zip_map_right, List.filter_map, List.all_map, List.all_filter]
    refine congrArg (List.all _) (funext fun x => ?_)
    by_cases empty : x.2 = []
    · simp [empty, items_eq_nil_iff.mpr]
    · simp [empty, items_all_holds empty]
  rw [together_holds, conclude, all]
  exact if_congr nothing rfl rfl

theorem verdicts_eq {list : List Criteria} {below : List (Option QueryTree)}
    (judged : ∀ nested ∈ list, ∀ filter,
      ofCriteria resolve maxDepth (depth + 1) nested = .ok filter →
        verdict resolve document nested = filter.map (QueryTree.holds document))
    (h : List.Forall₂ (fun criteria filter =>
      ofCriteria resolve maxDepth (depth + 1) criteria = .ok filter) list below) :
    verdicts resolve document list = below.reduceOption.map (QueryTree.holds document) := by
  induction h with
  | nil => rw [verdicts, List.reduceOption_nil, List.map_nil]
  | @cons criteria filter _ _ compiled _ ih =>
    rw [verdicts, judged criteria List.mem_cons_self filter compiled,
      ih fun nested mem => judged nested (List.mem_cons_of_mem _ mem)]
    cases filter <;> simp

theorem truths_eq {chain : List Criterion} {pieces : List (List QueryTree)}
    (judged : ∀ owner ∈ chain, ∀ nested ∈ owner.nested, ∀ filter,
      ofCriteria resolve maxDepth (depth + 1) nested = .ok filter →
        verdict resolve document nested = filter.map (QueryTree.holds document))
    (h : List.Forall₂ (HasPieces resolve maxDepth depth) chain pieces) :
    truths resolve document chain = pieces.map (List.map (QueryTree.holds document)) := by
  induction h with
  | nil => rw [truths, List.map_nil]
  | @cons criterion _ rest _ first _ ih =>
    obtain ⟨field, joiner, negated, queryEntries, filterEntries, boost, nested⟩ := criterion
    obtain ⟨own, below, built, compiled, rfl⟩ := first
    rw [truths, ownTruths_eq built, verdicts_eq (judged _ List.mem_cons_self) compiled,
      ih fun owner mem => judged owner (List.mem_cons_of_mem _ mem), List.map_cons, List.map_append]

/-- The filter of criteria holds where the criteria are judged to hold. -/
theorem verdict_eq {criteria : Criteria} {filter : Option QueryTree}
    (h : ofCriteria resolve maxDepth depth criteria = .ok filter) :
    verdict resolve document criteria = filter.map (QueryTree.holds document) := by
  induction criteria using Criteria.induction_on_nested generalizing depth filter with
  | step criteria ih =>
    obtain ⟨-, pieces, found, rfl⟩ := ofCriteria_eq_ok_iff.mp h
    rw [together_itemsOf_holds]
    obtain ⟨chain⟩ := criteria
    rw [verdict, truths_eq (fun owner mem nested mem' filter compiled =>
      ih nested ⟨owner, mem, mem'⟩ compiled) found]

/-- There is no filter if there is nothing that filters at any level. -/
theorem ofCriteria_eq_none_iff {criteria : Criteria} {filter : Option QueryTree}
    (h : ofCriteria resolve maxDepth depth criteria = .ok filter) :
    filter = none ↔
      ∀ level criterion, criteria.Contains level criterion → criterion.filterEntries = [] := by
  induction criteria using Criteria.induction_on_nested generalizing depth filter with
  | step criteria ih =>
    obtain ⟨-, pieces, found, rfl⟩ := ofCriteria_eq_ok_iff.mp h
    rw [together_eq_none_iff, itemsOf_eq_nil_iff found.length_eq, Criteria.forall_contains_iff]
    have chain : (∀ own ∈ pieces, own = []) ↔ ∀ criterion ∈ criteria.chain,
        criterion.filterEntries = [] ∧ ∀ nested ∈ criterion.nested, ∀ level inner,
          nested.Contains level inner → inner.filterEntries = [] := by
      refine forall_mem_iff_of_forall₂ found ?_
      rintro criterion mem _ ⟨own, below, built, compiled, rfl⟩
      rw [List.append_eq_nil_iff, predicates_eq_nil_iff built, List.reduceOption,
        List.filterMap_eq_nil_iff]
      refine and_congr_right fun _ => forall_mem_iff_of_forall₂ compiled ?_
      intro nested mem' filter compiled'
      exact ih nested ⟨criterion, mem, mem'⟩ compiled'
    rw [chain, Criteria.forall_nests_iff]
    constructor
    · intro all
      exact ⟨fun criterion mem => (all criterion mem).1, fun owner mem => (all owner mem).2⟩
    · rintro ⟨own, below⟩ criterion mem
      exact ⟨own criterion mem, below criterion mem⟩

end Filter

/-- Asks that a place is in a box. -/
def Criterion.boxed (name : String) : Criterion :=
  let corner : GeoPoint := ⟨.zero false, .zero false⟩
  { Criterion.on (.named name) with
    filterEntries := [⟨.boundingBox, .geoBox ⟨corner, corner⟩⟩] }

/-- A document of which the places that are in their box are known. -/
def Document.within (names : List String) : Document
  | .geo (.boundingBox name _ _) => names.contains name
  | _ => false

namespace Compiler

/-- There is no filter where nothing filters at any level. Otherwise the filter holds where the
criteria are judged to hold, which is where every criterion that has something gets what it asks
for, and it is the single item, or the boolean query of all items in the order of the chain. -/
theorem compileFilter_holds_iff {c : Compiler} {criteria : Criteria} {filter : Option QueryTree}
    (h : c.compileFilter criteria = .ok filter) :
    (filter = none ↔
        ∀ level criterion, criteria.Contains level criterion → criterion.filterEntries = []) ∧
      (∀ document, filter.map (QueryTree.holds document)
        = Filter.verdict c.resolve document criteria) ∧
      ∃ pieces, List.Forall₂ (Filter.HasPieces c.resolve c.settings.maxDepth 0) criteria.chain
          pieces ∧
        (∀ document, ∀ tree ∈ filter, (tree.holds document ↔
          ∀ x ∈ criteria.chain.zip pieces, x.2 ≠ [] →
            Filter.accepts x.1.joiner x.1.negated (x.2.map (QueryTree.holds document)))) ∧
        (∀ item, Filter.itemsOf criteria.chain pieces = [item] → filter = some item) ∧
        (1 < (Filter.itemsOf criteria.chain pieces).length → filter = some (.bool
          { BoolQuery.none with must := Filter.itemsOf criteria.chain pieces })) := by
  obtain ⟨-, pieces, found, made⟩ := Filter.ofCriteria_eq_ok_iff.mp h
  refine ⟨Filter.ofCriteria_eq_none_iff h, fun document => (Filter.verdict_eq h).symm, pieces, found,
    ?_, ?_, ?_⟩
  · intro document tree present
    have judged := Filter.together_itemsOf_holds document criteria.chain pieces
    rw [made, Option.mem_def.mp present, Option.map_some] at judged
    rw [Filter.conclude_eq_some judged.symm, List.zip_map_right, List.forall_mem_map]
    simp
  · intro item single
    rw [← made, single, Filter.together]
  · intro several
    rw [← made, Filter.together_eq_of_several several]

/-- A place in the first box or in the second but not the third, and never in the fourth. -/
theorem compileFilter_holds_iff_nested :
    ∃ tree, standard.compileFilter ⟨[
        { Criterion.boxed "a" with
          joiner := .or, nested := [⟨[.boxed "b", { Criterion.boxed "c" with negated := true }]⟩] },
        { Criterion.boxed "d" with negated := true }]⟩ = .ok (some tree) ∧
      tree.holds (Document.within ["b"]) ∧ ¬ tree.holds (Document.within ["b", "c"]) ∧
      tree.holds (Document.within ["a", "c"]) ∧ ¬ tree.holds (Document.within ["a", "d"]) := by
  have compiled : standard.compileFilter ⟨[
      { Criterion.boxed "a" with
        joiner := .or, nested := [⟨[.boxed "b", { Criterion.boxed "c" with negated := true }]⟩] },
      { Criterion.boxed "d" with negated := true }]⟩ = .ok (some _) := rfl
  obtain ⟨-, judged, -⟩ := compileFilter_holds_iff compiled
  have holds {names : List String} {b : Bool}
      (h : Filter.verdict standard.resolve (Document.within names) _ = some b) :
      QueryTree.holds (Document.within names) _ = b :=
    Option.some_inj.mp ((judged (Document.within names)).trans h)
  refine ⟨_, compiled, holds (by decide), ?_, holds (by decide), ?_⟩
  · exact Bool.eq_false_iff.mp (holds (by decide))
  · exact Bool.eq_false_iff.mp (holds (by decide))

end Compiler

end SearchCriteria
