import SearchCriteria.Proofs.Acceptance

/-!
# What scoring trees hold for

Criteria are judged here without their query tree: every part of a chain gets a verdict on its own,
and the verdict on the chain is taken from those by one rule. The main theorem says that the
scoring tree of criteria, if there is one, holds for exactly the documents that are judged so, and
that there is none exactly where there is nothing to judge.

Every scoring entry has a predicate that is built from it alone, and the truth of the predicate is
what the document says of it. Predicates that are moved to nested documents are one query for the
search engine, so the document says whether that query holds.
-/

namespace SearchCriteria

/-- Whether a part of a chain holds for a document, and how the part is joined to the rest. -/
structure Verdict where
  holds : Bool
  joiner : Connective
  negated : Bool

namespace Verdict

/-- The verdicts on the parts that are joined with OR. -/
def alternatives (verdicts : List Verdict) : List Bool :=
  (verdicts.filter fun v => v.joiner == .or).map holds

/-- The verdicts on the parts that are negated and not joined with OR. -/
def exclusions (verdicts : List Verdict) : List Bool :=
  (verdicts.filter fun v => v.joiner == .and && v.negated).map holds

/-- The verdicts on all other parts. -/
def requirements (verdicts : List Verdict) : List Bool :=
  (verdicts.filter fun v => v.joiner == .and && !v.negated).map holds

/-- The rule for a chain, for the verdict on its first fragment and those on all that is behind it.
If only alternatives are behind it, one of them has to hold, or the first. Otherwise requirements
have to hold, exclusions must not, and the first fragment goes with the ones or the others by its
negation; one of the alternatives has to hold if there are some and nothing else has to. -/
def Accepted (lead : Option Verdict) (later : List Verdict) : Prop :=
  if requirements later = [] ∧ exclusions later = [] ∧ alternatives later ≠ [] then
    (∃ v ∈ lead, v.holds) ∨ true ∈ alternatives later
  else
    (∀ b ∈ requirements later, b) ∧ (∀ b ∈ exclusions later, b = false) ∧
      (∀ v ∈ lead, v.holds = !v.negated) ∧
      ((∀ v ∈ lead, v.negated) → requirements later = [] → alternatives later ≠ [] →
        true ∈ alternatives later)

instance (lead : Option Verdict) (later : List Verdict) : Decidable (Accepted lead later) :=
  inferInstanceAs (Decidable (ite _ _ _))

/-- The verdict on a chain. There is none if the chain has no parts. -/
def onChain (own nested : List Verdict) : Option Bool :=
  if own ++ nested = [] then none else some (decide (Accepted own.head? (own.tail ++ nested)))

/-- What has the verdicts of a chain is absent if the chain has no parts, and otherwise holds where the
chain is accepted. -/
theorem of_onChain {own nested : List Verdict} {query : Option QueryTree} {holds : QueryTree → Bool}
    (h : onChain own nested = query.map holds) :
    (query = none ↔ own = [] ∧ nested = []) ∧
      ∀ tree ∈ query, (holds tree ↔ Accepted own.head? (own.tail ++ nested)) := by
  rw [onChain] at h
  rw [← List.append_eq_nil_iff]
  by_cases empty : own ++ nested = []
  · rw [if_pos empty] at h
    have absent : query = none := Option.map_eq_none_iff.mp h.symm
    subst absent
    exact ⟨iff_of_true rfl empty, nofun⟩
  · rw [if_neg empty] at h
    obtain ⟨tree, rfl, verdict⟩ := Option.map_eq_some_iff.mp h.symm
    refine ⟨iff_of_false (Option.some_ne_none _) empty, ?_⟩
    rintro _ ⟨⟩
    rw [verdict, decide_eq_true_iff]

end Verdict

namespace Fragment

variable {document : Document}

/-- The verdict on a fragment. -/
def verdict (document : Document) (f : Fragment) : Verdict :=
  ⟨f.query.holds document, f.joiner, f.negated⟩

theorem alternatives_map_verdict (fs : List Fragment) :
    Verdict.alternatives (fs.map (verdict document))
      = (bucket fs).should.map (QueryTree.holds document) := by
  simp only [Verdict.alternatives, bucket, List.filter_map, List.map_map]
  rfl

theorem exclusions_map_verdict (fs : List Fragment) :
    Verdict.exclusions (fs.map (verdict document))
      = (bucket fs).mustNot.map (QueryTree.holds document) := by
  simp only [Verdict.exclusions, bucket, List.filter_map, List.map_map]
  rfl

theorem requirements_map_verdict (fs : List Fragment) :
    Verdict.requirements (fs.map (verdict document))
      = (bucket fs).must.map (QueryTree.holds document) := by
  simp only [Verdict.requirements, bucket, List.filter_map, List.map_map]
  rfl

/-- The rule for a chain, said of its boolean query without the first fragment. -/
theorem accepted_map_verdict_iff (lead : Option Fragment) (later : List Fragment) :
    Verdict.Accepted (lead.map (verdict document)) (later.map (verdict document)) ↔
      if (bucket later).OnlyAlternatives then
        (∃ f ∈ lead, f.query.holds document) ∨ ∃ t ∈ (bucket later).should, t.holds document
      else
        (∀ t ∈ (bucket later).must, t.holds document) ∧
          (∀ t ∈ (bucket later).mustNot, t.holds document = false) ∧
          (∀ f ∈ lead, f.query.holds document = !f.negated) ∧
          ((∀ f ∈ lead, f.negated) → (bucket later).NeedsAlternative →
            ∃ t ∈ (bucket later).should, t.holds document) := by
  rw [Verdict.Accepted, alternatives_map_verdict, exclusions_map_verdict, requirements_map_verdict]
  cases lead <;> simp [BoolQuery.OnlyAlternatives, BoolQuery.NeedsAlternative, verdict]

/-- The boolean query of a chain holds where the verdicts on its fragments are accepted. -/
theorem joined_holds_iff (own nested : List Fragment) :
    (joined own nested).holds document ↔
      Verdict.Accepted (own.head?.map (verdict document))
        ((own.tail ++ nested).map (verdict document)) := by
  rw [accepted_map_verdict_iff]
  cases own with
  | nil =>
    rw [joined, (bucket_isPlain nested).holds_iff, List.head?_nil, List.tail_nil, List.nil_append]
    split
    case isTrue lone =>
      obtain ⟨must, mustNot, should⟩ := lone
      simp [BoolQuery.NeedsAlternative, must, mustNot, should]
    case isFalse =>
      simp
  | cons first rest =>
    rw [joined, attachFirst_holds_iff (bucket_isPlain _), List.head?_cons, List.tail_cons]
    split
    case isTrue => simp
    case isFalse => simp [and_left_comm]

end Fragment

namespace Compiler

/-- Whether the predicates of a criterion hold on a resolved field. On a field of the documents
themselves all of them have to; the boost of the criterion is part of a single one. If the field
lives in nested documents, it is the group of them that is asked for there, and the document says
whether this holds. -/
def predicatesHold (document : Document) (settings : Settings) (field : ResolvedField)
    (boost : Option Double) (leaves : List QueryTree) : Bool :=
  match field.nestedPath, leaves with
  | none, [leaf] => (leaf.withBoost boost).holds document
  | none, leaves => leaves.all (QueryTree.holds document)
  | some path, [leaf] =>
    document (.nested path (leaf.withBoost boost) settings.nestedScoreMode none)
  | some path, leaves =>
    document (.nested path (.bool { BoolQuery.none with must := leaves, boost })
      settings.nestedScoreMode none)

/-- Whether scoring entries hold together on a resolved field. Each of them is built into a predicate
on its own, and what cannot be built does not hold. -/
def entriesHold (c : Compiler) (document : Document) (depth : Nat) (field : ResolvedField)
    (boost : Option Double) (entries : List Entry) : Bool :=
  match entries.mapM fun entry => Clause.build c.settings field entry
      (entry.operand.compileEmbedded (c.subQueryAt (depth + 1))) with
  | .ok leaves => predicatesHold document c.settings field boost leaves
  | .error _ => false

/-- The verdict on the own entries of a criterion, which is turned round for a negated alternative.
There is none if the criterion has no field or no scoring entries. -/
def ownVerdict? (c : Compiler) (document : Document) (depth : Nat) (criterion : Criterion) :
    Option Verdict :=
  match criterion.field, criterion.queryEntries with
  | some field, entry :: rest =>
    let holds := c.entriesHold document depth (c.resolve field) criterion.boost (entry :: rest)
    some ⟨holds != (criterion.joiner == .or && criterion.negated), criterion.joiner,
      criterion.negated⟩
  | _, _ => none

/-- The verdicts on the own entries of the criteria of a chain. -/
def ownVerdicts (c : Compiler) (document : Document) (depth : Nat) (chain : List Criterion) :
    List Verdict :=
  chain.filterMap (c.ownVerdict? document depth)

mutual

/-- The verdict on criteria. There is none if there is nothing to judge. -/
def verdictAt (c : Compiler) (document : Document) (depth : Nat) : Criteria → Option Bool
  | ⟨chain⟩ =>
    Verdict.onChain (c.ownVerdicts document depth chain) (nestedVerdicts c document depth chain)

/-- The verdicts on the criteria nested in a chain, each joined as the criterion it is nested in. -/
def nestedVerdicts (c : Compiler) (document : Document) (depth : Nat) :
    List Criterion → List Verdict
  | [] => []
  | ⟨_, joiner, negated, _, _, _, nested⟩ :: rest =>
    (verdictList c document depth nested).map (fun holds => ⟨holds, joiner, negated⟩)
      ++ nestedVerdicts c document depth rest

def verdictList (c : Compiler) (document : Document) (depth : Nat) : List Criteria → List Bool
  | [] => []
  | criteria :: rest =>
    (verdictAt c document (depth + 1) criteria).toList ++ verdictList c document depth rest

end

variable {c : Compiler} {document : Document} {depth : Nat}

/-- Several predicates have to match together, whatever their boost. -/
theorem holds_group (leaves : List QueryTree) (boost : Option Double) :
    (BoolQuery.holds document { BoolQuery.none with must := leaves, boost })
      = leaves.all (QueryTree.holds document) := by
  rw [Bool.eq_iff_iff, BoolQuery.IsPlain.holds_iff ⟨rfl, rfl⟩, List.all_eq_true]
  simp [BoolQuery.none, BoolQuery.NeedsAlternative]

theorem holds_wrap (settings : Settings) (field : ResolvedField) (boost : Option Double)
    (leaves : List QueryTree) :
    (wrap settings field boost leaves).holds document
      = predicatesHold document settings field boost leaves := by
  unfold predicatesHold
  split
  case h_1 plain =>
    simp only [wrap, plain]
  case h_2 plain several =>
    simp only [wrap, plain]
    rw [QueryTree.holds_bool, holds_group]
  case h_3 nested =>
    simp only [wrap, nested, QueryTree.holds_nested]
  case h_4 nested several =>
    simp only [wrap, nested, QueryTree.holds_nested]

/-- On a field of the documents themselves all predicates have to hold, and a boost does not matter
to documents that do not look at it. -/
theorem predicatesHold_eq_all (blind : document.IgnoresBoosts) (settings : Settings)
    {field : ResolvedField} (plain : field.nestedPath = none) (boost : Option Double)
    (leaves : List QueryTree) :
    predicatesHold document settings field boost leaves = leaves.all (QueryTree.holds document) := by
  unfold predicatesHold
  split
  case h_1 leaf _ => simp [QueryTree.holds_withBoost blind leaf boost]
  case h_2 => rfl
  case h_3 nested => cases plain.symm.trans nested
  case h_4 nested _ => cases plain.symm.trans nested

/-- A negated alternative is turned round where it is made. -/
theorem verdict_fragment (settings : Settings) (field : ResolvedField) (joiner : Connective)
    (negated : Bool) (boost : Option Double) (leaves : List QueryTree) :
    (fragment settings field joiner negated boost leaves).verdict document
      = ⟨predicatesHold document settings field boost leaves != (joiner == .or && negated),
          joiner, negated⟩ := by
  rw [← holds_wrap, Fragment.verdict, fragment]
  cases turned : joiner == Connective.or && negated
  case false => simp
  case true => simp [QueryTree.holds_not]

theorem entriesHold_of_built {field : ResolvedField} {entries : List Entry} {leaves : List QueryTree}
    (boost : Option Double)
    (built : List.Forall₂ (fun entry leaf => Clause.build c.settings field entry
      (entry.operand.compileEmbedded (c.subQueryAt (depth + 1))) = .ok leaf) entries leaves) :
    c.entriesHold document depth field boost entries
      = predicatesHold document c.settings field boost leaves := by
  rw [entriesHold, mapM_eq_ok_iff.mpr built]

/-- The verdict on a criterion is that on the predicates that its entries are built into. -/
theorem ownVerdict?_of_built {criterion : Criterion} {field : Field} {leaves : List QueryTree}
    (named : criterion.field = some field) (asks : criterion.queryEntries ≠ [])
    (built : List.Forall₂ (fun entry leaf => Clause.build c.settings (c.resolve field) entry
      (entry.operand.compileEmbedded (c.subQueryAt (depth + 1))) = .ok leaf)
      criterion.queryEntries leaves) :
    c.ownVerdict? document depth criterion = some
      ⟨predicatesHold document c.settings (c.resolve field) criterion.boost leaves
          != (criterion.joiner == .or && criterion.negated),
        criterion.joiner, criterion.negated⟩ := by
  obtain ⟨entry, rest, entries⟩ := List.exists_cons_of_ne_nil asks
  rw [← entriesHold_of_built criterion.boost built]
  simp only [ownVerdict?, named, entries]

theorem ownVerdict?_eq {criterion : Criterion} {own : Option Fragment}
    (h : c.fragmentAt depth criterion = .ok own) :
    c.ownVerdict? document depth criterion = own.map (Fragment.verdict document) := by
  rcases fragmentAt_cases h with ⟨silent, rfl⟩ | ⟨contributes, field, leaves, named, compiled, rfl⟩
  · unfold ownVerdict?
    split
    case h_1 field entry rest named entries =>
      simp [Criterion.contributes, named, entries] at silent
    case h_2 =>
      rfl
  · have asks : criterion.queryEntries ≠ [] := by
      simpa [Criterion.contributes, named] using contributes
    rw [ownVerdict?_of_built named asks (leavesAt_eq_ok_iff.mp compiled), Option.map_some,
      verdict_fragment]

theorem ownVerdicts_eq {chain : List Criterion} {own : List Fragment}
    (h : c.fragmentsAt depth chain = .ok own) :
    c.ownVerdicts document depth chain = own.map (Fragment.verdict document) := by
  induction chain generalizing own with
  | nil =>
    rw [fragmentsAt] at h
    cases h
    rfl
  | cons criterion rest ih =>
    obtain ⟨_, others, first, compiled, rfl⟩ := fragmentsAt_cons_eq_ok_iff.mp h
    obtain ⟨own, compiled', rfl⟩ := map_eq_ok_iff.mp first
    rw [ownVerdicts, List.filterMap_cons, ownVerdict?_eq compiled', List.map_append, ← ih compiled]
    cases own <;> rfl

theorem onChain_map_verdict (own nested : List Fragment) :
    Verdict.onChain (own.map (Fragment.verdict document)) (nested.map (Fragment.verdict document))
      = (Fragment.join own nested).map (QueryTree.holds document) := by
  rw [Verdict.onChain, Fragment.join_eq_joined]
  by_cases empty : own ++ nested = []
  · rw [if_pos empty, if_pos (by rw [← List.map_append, empty, List.map_nil]), Option.map_none]
  · rw [if_neg empty, if_neg (by rwa [← List.map_append, List.map_eq_nil_iff]), Option.map_some,
      QueryTree.holds_bool, List.head?_map, ← List.map_tail, ← List.map_append, Option.some_inj,
      Bool.eq_iff_iff, decide_eq_true_iff, Fragment.joined_holds_iff]

mutual

/-- The scoring tree of criteria holds where the criteria are judged to hold. -/
theorem verdictAt_eq {depth : Nat} : ∀ {criteria : Criteria} {query : Option QueryTree},
    c.criteriaAt depth criteria = .ok query →
      c.verdictAt document depth criteria = query.map (QueryTree.holds document)
  | ⟨chain⟩, query, h => by
    obtain ⟨-, own, nested, compiled, compiled', rfl⟩ := criteriaAt_eq_ok_iff.mp h
    rw [verdictAt, ownVerdicts_eq compiled, nestedVerdicts_eq compiled', onChain_map_verdict]

theorem nestedVerdicts_eq {depth : Nat} : ∀ {chain : List Criterion} {nested : List Fragment},
    c.nestedAt depth chain = .ok nested →
      c.nestedVerdicts document depth chain = nested.map (Fragment.verdict document)
  | [], _, h => by
    rw [nestedAt] at h
    cases h
    rw [nestedVerdicts, List.map_nil]
  | ⟨field, joiner, negated, queryEntries, filterEntries, boost, below⟩ :: rest, _, h => by
    obtain ⟨_, others, first, compiled, rfl⟩ := nestedAt_cons_eq_ok_iff.mp h
    obtain ⟨queries, compiled', rfl⟩ := map_eq_ok_iff.mp first
    rw [nestedVerdicts, verdictList_eq compiled', nestedVerdicts_eq compiled, List.map_append,
      List.map_map, List.map_map]
    rfl

theorem verdictList_eq {depth : Nat} : ∀ {list : List Criteria} {queries : List QueryTree},
    c.nestedListAt depth list = .ok queries →
      c.verdictList document depth list = queries.map (QueryTree.holds document)
  | [], _, h => by
    rw [nestedListAt] at h
    cases h
    rw [verdictList, List.map_nil]
  | criteria :: rest, _, h => by
    obtain ⟨_, others, first, compiled, rfl⟩ := nestedListAt_cons_eq_ok_iff.mp h
    obtain ⟨query, compiled', rfl⟩ := map_eq_ok_iff.mp first
    rw [verdictList, verdictAt_eq compiled', verdictList_eq compiled, List.map_append,
      Option.toList_map]

end

/-- There is no scoring tree where there is nothing to judge, and otherwise it holds for exactly the
documents for which the chain is accepted. What is judged at any level are the predicates that the
entries of a criterion are built into, one by one; unless the field lives in nested documents, all of
them have to hold. -/
theorem compile_holds_iff {criteria : Criteria} {query : Option QueryTree}
    (h : c.compile criteria = .ok query) (document : Document) :
    (query = none ↔ c.ownVerdicts document 0 criteria.chain = [] ∧
        c.nestedVerdicts document 0 criteria.chain = []) ∧
      (∀ tree ∈ query, (tree.holds document ↔
        Verdict.Accepted (c.ownVerdicts document 0 criteria.chain).head?
          ((c.ownVerdicts document 0 criteria.chain).tail
            ++ c.nestedVerdicts document 0 criteria.chain))) ∧
      ∀ level criterion, criteria.Contains level criterion →
        ∀ field ∈ criterion.field, criterion.queryEntries ≠ [] → ∃ leaves,
          List.Forall₂ (fun entry leaf => Clause.build c.settings (c.resolve field) entry
            (entry.operand.compileEmbedded (c.subQueryAt (level + 1))) = .ok leaf)
            criterion.queryEntries leaves ∧
          c.ownVerdict? document level criterion = some
            ⟨predicatesHold document c.settings (c.resolve field) criterion.boost leaves
                != (criterion.joiner == .or && criterion.negated),
              criterion.joiner, criterion.negated⟩ ∧
          (document.IgnoresBoosts → (c.resolve field).nestedPath = none →
            predicatesHold document c.settings (c.resolve field) criterion.boost leaves
              = leaves.all (QueryTree.holds document)) := by
  have judged : c.verdictAt document 0 criteria = _ := verdictAt_eq h
  obtain ⟨-, accepted⟩ := (criteriaAt_accepts_iff c 0 criteria).mp ⟨query, h⟩
  rw [← and_assoc]
  refine ⟨?_, fun level criterion within field named asks => ?_⟩
  · obtain ⟨chain⟩ := criteria
    rw [verdictAt] at judged
    exact Verdict.of_onChain judged
  · obtain ⟨-, each⟩ := accepted level criterion within
    rw [Nat.zero_add] at each
    obtain ⟨leaves, built⟩ := exists_forall₂_iff.mpr (each field named)
    exact ⟨leaves, built, ownVerdict?_of_built named asks built,
      fun blind plain => predicatesHold_eq_all blind c.settings plain criterion.boost leaves⟩

/-- A field that has to be there and to be indexed, an alternative to it, and a field of nested
documents that must not be there. -/
def mixedChain : Criteria :=
  ⟨[{ Criterion.present "a" .and false with
      queryEntries := [⟨.present, .null⟩, ⟨.notEmpty, .null⟩] },
    .present "b" .or false,
    { Criterion.on { name := "c", type := none, path := some "p" } with
      negated := true, queryEntries := [⟨.present, .null⟩], boost := some (.ofInt 2) }]⟩

/-- An excluded field at the end of a chain makes its alternatives optional, and the first field has
to fulfil both of its entries. -/
theorem compile_holds_iff_mixed :
    ∃ tree, standard.compile mixedChain = .ok (some tree) ∧
      tree.holds (Document.indexing ["a"] ["a"] []) ∧
      ¬ tree.holds (Document.indexing ["a", "b"] ["b"] []) ∧
      ¬ tree.holds (Document.indexing ["a"] ["a"] [("p", "c")]) := by
  have compiled : standard.compile mixedChain = .ok (some _) := rfl
  have judged (document : Document) := (compile_holds_iff compiled document).2.1 _ rfl
  refine ⟨_, compiled, ?_, ?_, ?_⟩
  · exact (judged _).mpr (by decide)
  · exact mt (judged _).mp (by decide)
  · exact mt (judged _).mp (by decide)

end Compiler

end SearchCriteria
