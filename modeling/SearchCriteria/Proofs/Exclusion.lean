import SearchCriteria.Proofs.Appending
import SearchCriteria.Proofs.Occurrence

/-!
# How often a negated alternative is excluded

The fragment of a criterion that is negated and joined with OR is negated at once, since alternatives
are not negated where they are joined. So it is excluded once wherever it becomes an alternative.
There is one place where it does not: the first fragment of a chain goes by the negation of its
criterion unless there are alternatives besides it and nothing else. There it is excluded again, and
what should have failed has to match.
-/

namespace SearchCriteria

/-- A step from a boolean query to one of its clauses, which is counted among those of its kind. -/
structure ClauseStep where
  kind : ClauseKind
  index : Nat
deriving DecidableEq, Repr

/-- What a boolean query asks of a clause of some kind, for the truth of the clause. -/
def ClauseKind.asks : ClauseKind → Bool → Bool
  | .mustNot, holds => !holds
  | _, holds => holds

namespace QueryTree

/-- The part of a query that a path through its boolean queries leads to. -/
def follow? : List ClauseStep → QueryTree → Option QueryTree
  | [], tree => some tree
  | step :: rest, .bool q => (q.clausesOf step.kind)[step.index]?.bind (follow? rest)
  | _ :: _, _ => none

/-- How many of the steps of a path lead to something that must not match. -/
def exclusions (path : List ClauseStep) : Nat :=
  path.countP fun step => step.kind == .mustNot

@[simp] theorem follow?_nil (tree : QueryTree) : follow? [] tree = some tree := rfl

@[simp] theorem follow?_bool (step : ClauseStep) (rest : List ClauseStep) (q : BoolQuery) :
    follow? (step :: rest) (.bool q)
      = (q.clausesOf step.kind)[step.index]?.bind (follow? rest) := rfl

/-- The rest of a path starts where the first step leads to. -/
theorem follow?_cons {step : ClauseStep} {tree part : QueryTree}
    (h : follow? [step] tree = some part) (rest : List ClauseStep) :
    follow? (step :: rest) tree = follow? rest part := by
  cases tree with
  | bool q =>
    obtain ⟨clause, found, same⟩ := Option.bind_eq_some_iff.mp h
    cases same
    rw [follow?_bool, found, Option.bind_some]
  | leaf | geo | wrapper | nested | hasChild | hasParent => cases h

/-- What does not match a query has that query as its only clause. -/
@[simp] theorem follow?_not (query : QueryTree) (rest : List ClauseStep) :
    follow? (⟨.mustNot, 0⟩ :: rest) query.not = follow? rest query := rfl

end QueryTree

namespace Fragment

variable {f lead : Fragment} {rest after nested : List Fragment}

/-- There are alternatives alone where some fragments are joined, and all of them with OR. -/
theorem onlyAlternatives_bucket_iff {fs : List Fragment} :
    (bucket fs).OnlyAlternatives ↔ fs ≠ [] ∧ ∀ f ∈ fs, f.joiner = .or := by
  constructor
  · rintro ⟨must, mustNot, should⟩
    refine ⟨fun empty => should (by rw [empty]; rfl), fun f mem => ?_⟩
    simp only [bucket, List.map_eq_nil_iff, List.filter_eq_nil_iff] at must mustNot
    rcases place_cases f with alternative | excluded | required
    · simpa [isAlternative] using alternative
    · exact absurd excluded (mustNot f mem)
    · exact absurd required (must f mem)
  · rintro ⟨some, alternatives⟩
    rw [bucket_of_or alternatives]
    exact ⟨rfl, rfl, mt List.map_eq_nil_iff.mp some⟩

/-- Where a later fragment stands among the alternatives is a matter of what is before it, and of
whether there is anything but alternatives behind the first fragment. -/
theorem joined_later (lead : Fragment) (rest after nested : List Fragment) :
    ∃ index : Nat, ∀ f : Fragment, f.joiner = .or →
      (joined (lead :: rest ++ f :: after) nested).should[index]? = some f.query := by
  have found (f : Fragment) (alternative : f.joiner = .or) :
      (bucket (rest ++ f :: after ++ nested)).should[(bucket rest).should.length]?
        = some f.query := by
    simp [bucket, isAlternative, alternative]
  have lone_iff (f : Fragment) (alternative : f.joiner = .or) :
      (bucket (rest ++ f :: after ++ nested)).OnlyAlternatives ↔
        ∀ g ∈ rest ++ after ++ nested, g.joiner = .or := by
    rw [onlyAlternatives_bucket_iff]
    simp [alternative, or_imp, forall_and]
  by_cases lone : ∀ g ∈ rest ++ after ++ nested, g.joiner = .or
  · refine ⟨(bucket rest).should.length + 1, fun f alternative => ?_⟩
    rw [List.cons_append, joined,
      attachFirst_of_onlyAlternatives ((lone_iff f alternative).mpr lone),
      List.getElem?_cons_succ]
    exact found f alternative
  · refine ⟨(bucket rest).should.length, fun f alternative => ?_⟩
    rw [List.cons_append, joined,
      attachFirst_of_not_onlyAlternatives (mt (lone_iff f alternative).mp lone)]
    cases lead.negated <;> exact found f alternative

/-- Whether a fragment comes first, with something else behind it than alternatives alone. -/
def LeadsMixed (front back nested : List Fragment) : Prop :=
  front = [] ∧ ¬ (bucket (back ++ nested)).OnlyAlternatives

instance (front back nested : List Fragment) : Decidable (LeadsMixed front back nested) :=
  inferInstanceAs (Decidable (_ ∧ _))

/-- The place of a negated alternative among other fragments. -/
theorem joined_place (front back nested : List Fragment) :
    ∃ step : ClauseStep,
      step.kind = (if LeadsMixed front back nested then .mustNot else .should) ∧
        ∀ f : Fragment, f.joiner = .or → f.negated →
          QueryTree.follow? [step] (.bool (joined (front ++ f :: back) nested)) = some f.query := by
  cases front with
  | nil =>
    by_cases lone : (bucket (back ++ nested)).OnlyAlternatives
    · have alone : ¬ LeadsMixed [] back nested := fun mixed => mixed.2 lone
      refine ⟨⟨.should, 0⟩, (if_neg alone).symm, fun f _ negated => ?_⟩
      rw [List.nil_append, QueryTree.follow?_bool, BoolQuery.clausesOf, joined,
        attachFirst_of_onlyAlternatives lone]
      rfl
    · have mixed : LeadsMixed [] back nested := ⟨rfl, lone⟩
      refine ⟨⟨.mustNot, 0⟩, (if_pos mixed).symm, fun f _ negated => ?_⟩
      rw [List.nil_append, QueryTree.follow?_bool, BoolQuery.clausesOf, joined,
        attachFirst_of_not_onlyAlternatives lone, if_pos negated]
      rfl
  | cons lead rest =>
    obtain ⟨index, found⟩ := joined_later lead rest back nested
    have later : ¬ LeadsMixed (lead :: rest) back nested := fun mixed => by cases mixed.1
    refine ⟨⟨.should, index⟩, (if_neg later).symm, fun f alternative _ => ?_⟩
    rw [QueryTree.follow?_bool, BoolQuery.clausesOf, found f alternative]
    rfl

end Fragment

namespace Compiler

variable {c : Compiler} {depth : Nat} {before after : List Criterion} {criterion : Criterion}

/-- A path leads from the scoring tree of a chain to the fragment that one of its criteria has before
it is negated, whatever that criterion asks of whatever field. -/
def LeadsTo (c : Compiler) (before : List Criterion) (criterion : Criterion)
    (after : List Criterion) (path : List ClauseStep) : Prop :=
  ∀ field entries boost result, entries ≠ [] →
    c.compile ⟨before ++ { criterion with field := some field, queryEntries := entries, boost }
      :: after⟩ = .ok result →
    ∃ leaves, c.leavesAt 0 (c.resolve field) entries = .ok leaves ∧
      result.bind (QueryTree.follow? path)
        = some (wrap c.settings (c.resolve field) boost leaves)

/-- A criterion adds something to a chain, a fragment of its own or the tree of something nested. -/
def Adds (c : Compiler) (criterion : Criterion) : Prop :=
  criterion.contributes ∨ c.NestsQuery criterion

/-- A criterion that is joined with OR has the first fragment of a chain, and it is not the case that
there are alternatives besides this fragment and nothing else. -/
structure LeadsMixed (c : Compiler) (before : List Criterion) (criterion : Criterion)
    (after : List Criterion) : Prop where
  first : ∀ other ∈ before, other.contributes = false
  mixed : (∃ other ∈ before ++ after, c.Adds other ∧ other.joiner = .and) ∨
    ¬ c.NestsQuery criterion ∧ ∀ other ∈ before ++ after, ¬ c.Adds other

theorem exists_mem_fragmentsAt_iff {chain : List Criterion} {own : List Fragment}
    (h : c.fragmentsAt depth chain = .ok own) (p : Connective → Prop) :
    (∃ f ∈ own, p f.joiner) ↔ ∃ other ∈ chain, other.contributes ∧ p other.joiner := by
  induction chain generalizing own with
  | nil =>
    rw [fragmentsAt] at h
    cases h
    simp
  | cons other rest ih =>
    obtain ⟨_, others, first, compiled, rfl⟩ := fragmentsAt_cons_eq_ok_iff.mp h
    obtain ⟨own, compiled', rfl⟩ := map_eq_ok_iff.mp first
    have shown := fragmentAt_isSome compiled'
    have alike := fragmentAt_alike compiled'
    simp only [List.mem_append, or_and_right, exists_or, ih compiled, List.mem_cons,
      exists_eq_left, ← shown]
    cases own with
    | none => simp
    | some f => simp [(alike f rfl).1]

theorem exists_mem_nestedAt_iff {chain : List Criterion} {nested : List Fragment}
    (h : c.nestedAt 0 chain = .ok nested) (p : Connective → Prop) :
    (∃ f ∈ nested, p f.joiner) ↔ ∃ other ∈ chain, c.NestsQuery other ∧ p other.joiner := by
  induction chain generalizing nested with
  | nil =>
    rw [nestedAt] at h
    cases h
    simp
  | cons other rest ih =>
    obtain ⟨_, others, first, compiled, rfl⟩ := nestedAt_cons_eq_ok_iff.mp h
    obtain ⟨queries, compiled', rfl⟩ := map_eq_ok_iff.mp first
    have some : c.NestsQuery other ↔ queries ≠ [] := (nestedListAt_ne_nil_iff compiled').symm
    simp only [List.mem_append, or_and_right, exists_or, ih compiled, List.mem_cons,
      exists_eq_left, some, List.mem_map]
    cases queries with
    | nil => simp
    | cons query queries => simp

/-- What is nested in a chain is compiled without a look at what its criteria ask for. -/
theorem nestedAt_around (field : Option Field) (entries : List Entry) (boost : Option Double) :
    c.nestedAt depth
        (before ++ { criterion with field, queryEntries := entries, boost } :: after)
      = c.nestedAt depth (before ++ criterion :: after) := by
  obtain ⟨_, joiner, negated, _, filterEntries, _, nested⟩ := criterion
  induction before with
  | nil => rw [List.nil_append, nestedAt, List.nil_append, nestedAt]
  | cons other rest ih =>
    obtain ⟨_, _, _, _, _, _, _⟩ := other
    rw [List.cons_append, nestedAt, ih, List.cons_append, nestedAt]

/-- Around a criterion there are the same fragments whatever it asks for. -/
theorem compile_around {result : Option QueryTree}
    (h : c.compile ⟨before ++ criterion :: after⟩ = .ok result) :
    ∃ front back nested, c.fragmentsAt 0 before = .ok front ∧ c.fragmentsAt 0 after = .ok back ∧
      c.nestedAt 0 (before ++ criterion :: after) = .ok nested ∧
      ∀ field entries boost result, entries ≠ [] →
        c.compile ⟨before ++ { criterion with field := some field, queryEntries := entries, boost }
          :: after⟩ = .ok result →
        ∃ leaves, c.leavesAt 0 (c.resolve field) entries = .ok leaves ∧
          result = some (.bool (Fragment.joined (front ++ fragment c.settings (c.resolve field)
            criterion.joiner criterion.negated boost leaves :: back) nested)) := by
  obtain ⟨-, _, nested, own, below, -⟩ := criteriaAt_eq_ok_iff.mp h
  obtain ⟨front, _, first, second, rfl⟩ := fragmentsAt_append_eq_ok_iff.mp own
  obtain ⟨_, back, -, last, rfl⟩ := fragmentsAt_cons_eq_ok_iff.mp second
  refine ⟨front, back, nested, first, last, below, fun field entries boost result asks h => ?_⟩
  obtain ⟨-, _, nested', own, below', join⟩ := criteriaAt_eq_ok_iff.mp h
  rw [nestedAt_around (some field) entries boost, below] at below'
  cases below'
  obtain ⟨front', _, first', second, rfl⟩ := fragmentsAt_append_eq_ok_iff.mp own
  obtain ⟨_, back', part, last', rfl⟩ := fragmentsAt_cons_eq_ok_iff.mp second
  cases first.symm.trans first'
  cases last.symm.trans last'
  obtain ⟨found, itself, rfl⟩ := map_eq_ok_iff.mp part
  rcases fragmentAt_cases itself with ⟨silent, -⟩ | ⟨-, _, leaves, named, compiled, rfl⟩
  · simp [Criterion.contributes, asks] at silent
  · cases named
    refine ⟨leaves, compiled, ?_⟩
    rw [← join, Fragment.join_eq_joined, if_neg (by simp)]
    simp

/-- What is in a chain besides a criterion, if nothing before the criterion contributes. -/
theorem exists_mem_besides_iff {back nested : List Fragment}
    (last : c.fragmentsAt 0 after = .ok back)
    (below : c.nestedAt 0 (before ++ criterion :: after) = .ok nested)
    (silent : ∀ other ∈ before, other.contributes = false) (p : Connective → Prop) :
    (∃ f ∈ back ++ nested, p f.joiner) ↔
      c.NestsQuery criterion ∧ p criterion.joiner ∨
        ∃ other ∈ before ++ after, c.Adds other ∧ p other.joiner := by
  have own : (∃ other ∈ before, other.contributes ∧ p other.joiner) ↔ False := by
    simp only [iff_false, not_exists, not_and]
    intro other mem contributes
    rw [silent other mem] at contributes
    cases contributes
  simp only [List.mem_append, or_and_right, exists_or, exists_mem_fragmentsAt_iff last,
    exists_mem_nestedAt_iff below, List.mem_cons, exists_eq_left, Adds, and_or_left, own, false_or]
  exact Iff.of_eq (by ac_rfl)

/-- Whether a criterion leads a mixed chain, said of the fragments that the chain has. -/
theorem leadsMixed_iff {front back nested : List Fragment}
    (first : c.fragmentsAt 0 before = .ok front) (last : c.fragmentsAt 0 after = .ok back)
    (below : c.nestedAt 0 (before ++ criterion :: after) = .ok nested)
    (joiner : criterion.joiner = .or) :
    c.LeadsMixed before criterion after ↔ Fragment.LeadsMixed front back nested := by
  have silent_iff : front = [] ↔ ∀ other ∈ before, other.contributes = false := by
    have found := exists_mem_fragmentsAt_iff first fun _ => True
    simpa [List.eq_nil_iff_forall_not_mem] using not_congr found
  rw [Fragment.LeadsMixed, Fragment.onlyAlternatives_bucket_iff]
  constructor
  · rintro ⟨silent, mixed⟩
    refine ⟨silent_iff.mpr silent, fun ⟨nonempty, alternatives⟩ => ?_⟩
    have besides := exists_mem_besides_iff last below silent
    rcases mixed with required | ⟨nests, adds⟩
    · obtain ⟨f, mem, and⟩ := (besides (· = .and)).mpr (.inr required)
      cases and.symm.trans (alternatives f mem)
    · obtain ⟨f, mem⟩ := List.exists_mem_of_ne_nil _ nonempty
      rcases (besides fun _ => True).mp ⟨f, mem, trivial⟩ with ⟨own, -⟩ | ⟨other, mem', other', -⟩
      · exact nests own
      · exact adds other mem' other'
  · rintro ⟨none, mixed⟩
    have silent := silent_iff.mp none
    have besides := exists_mem_besides_iff last below silent
    refine ⟨silent, ?_⟩
    by_cases nonempty : back ++ nested = []
    · right
      have nothing := (besides fun _ => True).not.mp (by simp [nonempty])
      exact ⟨fun own => nothing (.inl ⟨own, trivial⟩),
        fun other mem adds => nothing (.inr ⟨other, mem, adds, trivial⟩)⟩
    · left
      obtain ⟨f, mem, and⟩ : ∃ f ∈ back ++ nested, f.joiner = .and := by
        by_contra alternatives
        refine mixed ⟨nonempty, fun f mem => ?_⟩
        cases joined : f.joiner with
        | or => rfl
        | and => exact absurd ⟨f, mem, joined⟩ alternatives
      rcases (besides (· = .and)).mp ⟨f, mem, and⟩ with ⟨-, other⟩ | required
      · cases joiner.symm.trans other
      · exact required

/-- A negated alternative is excluded by a clause that holds what is not its fragment. That clause is
an alternative, and so the fragment is excluded once, unless it is the first one of a chain with
something besides that is no alternative, or with nothing besides. There the clause is excluded as
well, and what is asked of it is met by the documents for which the fragment holds. -/
theorem excluded_alternative (before : List Criterion) (criterion : Criterion)
    (after : List Criterion) {result : Option QueryTree}
    (compiled : c.compile ⟨before ++ criterion :: after⟩ = .ok result)
    (contributes : criterion.contributes) (joiner : criterion.joiner = .or)
    (negated : criterion.negated) :
    ∃ step : ClauseStep, c.LeadsTo before criterion after [step, ⟨.mustNot, 0⟩] ∧
      (¬ c.LeadsMixed before criterion after →
        QueryTree.exclusions [step, ⟨.mustNot, 0⟩] = 1) ∧
      (c.LeadsMixed before criterion after → QueryTree.exclusions [step, ⟨.mustNot, 0⟩] = 2) ∧
      ∃ clause fragment, result.bind (QueryTree.follow? [step]) = some clause ∧
        result.bind (QueryTree.follow? [step, ⟨.mustNot, 0⟩]) = some fragment ∧
        ∀ document, step.kind.asks (clause.holds document) ↔
          (fragment.holds document ↔ c.LeadsMixed before criterion after) := by
  obtain ⟨front, back, nested, first, last, below, around⟩ := compile_around compiled
  obtain ⟨step, kind, found⟩ := Fragment.joined_place front back nested
  have leads : c.LeadsTo before criterion after [step, ⟨.mustNot, 0⟩] := by
    intro field entries boost result asks compiled
    obtain ⟨leaves, built, rfl⟩ := around field entries boost result asks compiled
    refine ⟨leaves, built, ?_⟩
    have place := found (fragment c.settings (c.resolve field) criterion.joiner criterion.negated
      boost leaves) joiner negated
    rw [Option.bind_some, QueryTree.follow?_cons place]
    simp [fragment, joiner, negated]
  obtain ⟨field, named⟩ : ∃ field, criterion.field = some field := by
    rw [Criterion.contributes, Bool.and_eq_true] at contributes
    exact Option.isSome_iff_exists.mp contributes.1
  have asks : criterion.queryEntries ≠ [] := by
    simpa [Criterion.contributes, named] using contributes
  -- Among all that the criterion could ask for is what it does ask for.
  have itself : { criterion with
      field := some field, queryEntries := criterion.queryEntries, boost := criterion.boost }
        = criterion := by
    cases criterion
    cases named
    rfl
  obtain ⟨leaves, -, rfl⟩ := around field criterion.queryEntries criterion.boost result asks
    (by rw [itself]; exact compiled)
  have place := found (fragment c.settings (c.resolve field) criterion.joiner criterion.negated
    criterion.boost leaves) joiner negated
  have turned : (fragment c.settings (c.resolve field) criterion.joiner criterion.negated
      criterion.boost leaves).query
        = (wrap c.settings (c.resolve field) criterion.boost leaves).not := by
    simp [fragment, joiner, negated]
  rw [turned] at place
  have mixed_iff := leadsMixed_iff first last below joiner
  refine ⟨step, leads, fun alone => ?_, fun mixed => ?_, _, _, place,
    (QueryTree.follow?_cons place _).trans (QueryTree.follow?_not _ []), fun document => ?_⟩
  · rw [if_neg (mixed_iff.not.mp alone)] at kind
    simp [QueryTree.exclusions, kind]
  · rw [if_pos (mixed_iff.mp mixed)] at kind
    simp [QueryTree.exclusions, kind]
  · rw [mixed_iff, kind, QueryTree.holds_not]
    split
    case isTrue mixed => simp [ClauseKind.asks, mixed]
    case isFalse alone => simp [ClauseKind.asks, alone]

/-- A field that must not be there, as an alternative: behind another field it is excluded once, and
on its own it is excluded twice. -/
theorem excluded_alternative_present :
    let absent := Criterion.present "a" .or true
    let found := QueryTree.leaf (.fieldExists "a") none
    (∃ step tree, standard.compile ⟨[.present "b" .and false, absent]⟩ = .ok (some tree) ∧
      QueryTree.follow? [step, ⟨.mustNot, 0⟩] tree = some found ∧
      QueryTree.exclusions [step, ⟨.mustNot, 0⟩] = 1) ∧
    ∃ step tree, standard.compile ⟨[absent]⟩ = .ok (some tree) ∧
      QueryTree.follow? [step, ⟨.mustNot, 0⟩] tree = some found ∧
      QueryTree.exclusions [step, ⟨.mustNot, 0⟩] = 2 := by
  intro absent found
  constructor
  · have compiled : standard.compile ⟨[.present "b" .and false, absent]⟩ = .ok (some _) := rfl
    obtain ⟨step, leads, once, -⟩ :=
      excluded_alternative [.present "b" .and false] absent [] compiled rfl rfl rfl
    obtain ⟨_, built, place⟩ := leads (.named "a") _ none _ (List.cons_ne_nil _ _) compiled
    cases built
    refine ⟨step, _, compiled, place, once fun mixed => ?_⟩
    cases mixed.first _ (List.mem_singleton_self _)
  · have compiled : standard.compile ⟨[absent]⟩ = .ok (some _) := rfl
    obtain ⟨step, leads, -, twice, -⟩ :=
      excluded_alternative [] absent [] compiled rfl rfl rfl
    obtain ⟨_, built, place⟩ := leads (.named "a") _ none _ (List.cons_ne_nil _ _) compiled
    cases built
    refine ⟨step, _, compiled, place, twice ⟨nofun, .inr ⟨?_, nofun⟩⟩⟩
    rintro ⟨_, mem, -⟩
    cases mem

end Compiler

end SearchCriteria
