import SearchCriteria.Proofs.Compilation
import SearchCriteria.Proofs.Joining

/-!
# More fragments in a chain

Fragments that are all joined with AND make the boolean query of a chain ask for more, and fragments
that are all joined with OR give it more alternatives. The first should only take documents away and
the second only add some. Both is true as long as the part that alternatives play stays the same:
the engine asks for one of them only if nothing else has to match, and the first fragment of a chain
is one of them only if there is nothing else. Here it is said when that part changes, what the query
is then, and proved that otherwise AND takes away and OR adds.
-/

namespace SearchCriteria

namespace BoolQuery

variable {document : Document} {old new : BoolQuery}

/-- Asks for as much as before and more, and has the same alternatives. -/
structure Tightens (new old : BoolQuery) : Prop where
  must : old.must ⊆ new.must
  mustNot : old.mustNot ⊆ new.mustNot
  should : new.should = old.should

/-- Asks for the same as before, and has as many alternatives and more. -/
structure Loosens (new old : BoolQuery) : Prop where
  must : new.must = old.must
  mustNot : new.mustNot = old.mustNot
  should : old.should ⊆ new.should

theorem Tightens.holds_of_holds (tighter : new.Tightens old) (plain : new.IsPlain)
    (plain' : old.IsPlain) (kept : old.NeedsAlternative → new.must = [])
    (h : new.holds document) : old.holds document :=
  plain.holds_of_holds plain' tighter.must tighter.mustNot
    (fun needed => ⟨⟨kept needed, tighter.should ▸ needed.2⟩, fun _ ht => tighter.should ▸ ht⟩) h

theorem Loosens.holds_of_holds (looser : new.Loosens old) (plain : new.IsPlain)
    (plain' : old.IsPlain) (kept : new.NeedsAlternative → old.should ≠ [])
    (h : old.holds document) : new.holds document :=
  plain'.holds_of_holds plain (fun _ ht => looser.must ▸ ht) (fun _ ht => looser.mustNot ▸ ht)
    (fun needed => ⟨⟨looser.must ▸ needed.1, kept needed⟩, looser.should⟩) h

theorem Tightens.onlyAlternatives (tighter : new.Tightens old) (lone : new.OnlyAlternatives) :
    old.OnlyAlternatives := by
  obtain ⟨must, mustNot, should⟩ := lone
  exact ⟨List.subset_nil.mp (must ▸ tighter.must), List.subset_nil.mp (mustNot ▸ tighter.mustNot),
    tighter.should ▸ should⟩

theorem Loosens.onlyAlternatives (looser : new.Loosens old) (lone : old.OnlyAlternatives) :
    new.OnlyAlternatives := by
  obtain ⟨must, mustNot, should⟩ := lone
  refine ⟨looser.must.trans must, looser.mustNot.trans mustNot, fun empty => should ?_⟩
  exact List.subset_nil.mp (empty ▸ looser.should)

/-- The alternatives of a chain stop being asked for, or get one more among them, when something is
joined to the chain with AND. `lead` is the negation of the first fragment of the chain; `own` and
`nested` say whether there is a fragment of the criterion itself and one of what is nested in it. -/
def ReleasedBy (old : BoolQuery) (lead : Option Bool) (own nested : Prop) (negated : Bool) : Prop :=
  old.NeedsAlternative ∧ lead ≠ some false ∧
    (negated = false ∧ (own ∨ nested) ∨
      negated = true ∧ lead = .none ∧ old.mustNot = [] ∧ own ∧ ¬ nested)

/-- An alternative becomes necessary for a chain when something is joined to the chain with OR:
because the chain only excluded before, or because what is joined has the first fragment. -/
def BoundBy (old : BoolQuery) (lead : Option Bool) (own nested : Prop) : Prop :=
  (own ∨ nested) ∧ old.must = [] ∧ old.should = [] ∨
    lead = .none ∧ own ∧ (old.must ≠ [] ∨ old.mustNot ≠ [])

/-- What releases the alternatives of a chain is one more of them: the chain consists of alternatives
only and has no first fragment, and what is joined to it is a single fragment. -/
def Admits (old : BoolQuery) (lead : Option Bool) (own nested : Prop) : Prop :=
  lead = .none ∧ old.mustNot = [] ∧ own ∧ ¬ nested

/-- The query of a chain after its alternatives have been released. A first fragment that was one of
them, although it is negated, must not match any more. -/
def leadExcluded (old : BoolQuery) (lead : Option Bool) : BoolQuery :=
  if lead ≠ .none ∧ old.mustNot = [] then
    { old with should := old.should.drop 1, mustNot := old.should.take 1 }
  else old

/-- The query of a chain that has only excluded, as it is when alternatives join it. If nothing but
the first fragment was excluded, this is an alternative. -/
def leadAdmitted (old : BoolQuery) (lead : Option Bool) : BoolQuery :=
  if lead ≠ .none ∧ old.mustNot.length = 1 then { old with should := old.mustNot, mustNot := [] }
  else old

/-- A query of which more has to match. -/
def requiring (old : BoolQuery) (trees : List QueryTree) : BoolQuery :=
  { old with must := old.must ++ trees }

/-- A query with more alternatives. -/
def offering (old : BoolQuery) (trees : List QueryTree) : BoolQuery :=
  { old with should := old.should ++ trees }

/-- A query with a first clause that has to match, or must not if it is negated. -/
def leadBy (old : BoolQuery) (negated : Bool) (tree : QueryTree) : BoolQuery :=
  if negated then { old with mustNot := tree :: old.mustNot }
  else { old with must := tree :: old.must }

end BoolQuery

namespace Fragment

variable {document : Document} {first : Fragment} {old new : BoolQuery} {negated : Bool}

theorem bucket_tightens (rest extra nested more : List Fragment)
    (alike : ∀ f ∈ extra ++ more, f.joiner = .and ∧ f.negated = negated) :
    (bucket (rest ++ extra ++ (nested ++ more))).Tightens (bucket (rest ++ nested)) := by
  have own := bucket_of_and fun f hf => alike f (List.mem_append_left more hf)
  have below := bucket_of_and fun f hf => alike f (List.mem_append_right extra hf)
  refine ⟨fun t ht => ?_, fun t ht => ?_, ?_⟩
  · simp only [bucket_append_must, List.mem_append] at ht ⊢
    exact ht.imp .inl .inl
  · simp only [bucket_append_mustNot, List.mem_append] at ht ⊢
    exact ht.imp .inl .inl
  · rw [bucket_append_should, bucket_append_should, bucket_append_should, bucket_append_should,
      own, below]
    cases negated <;> simp [BoolQuery.none]

theorem bucket_loosens (rest extra nested more : List Fragment)
    (alike : ∀ f ∈ extra ++ more, f.joiner = .or) :
    (bucket (rest ++ extra ++ (nested ++ more))).Loosens (bucket (rest ++ nested)) := by
  have own := bucket_of_or fun f hf => alike f (List.mem_append_left more hf)
  have below := bucket_of_or fun f hf => alike f (List.mem_append_right extra hf)
  refine ⟨?_, ?_, fun t ht => ?_⟩
  · simp [own, below, BoolQuery.none]
  · simp [own, below, BoolQuery.none]
  · simp only [bucket_append_should, List.mem_append] at ht ⊢
    exact ht.imp .inl .inl

theorem attachFirst_holds_of_tightens (tighter : new.Tightens old) (plain : new.IsPlain)
    (plain' : old.IsPlain)
    (kept : first.negated → old.NeedsAlternative → new.must = [])
    (h : (first.attachFirst new).holds document) : (first.attachFirst old).holds document := by
  rw [attachFirst_holds_iff plain] at h
  rw [attachFirst_holds_iff plain']
  by_cases lone : old.OnlyAlternatives
  · rw [if_pos lone]
    by_cases lone' : new.OnlyAlternatives
    · rwa [if_pos lone', tighter.should] at h
    · -- The first fragment was an alternative and is none any more.
      rw [if_neg lone'] at h
      obtain ⟨placed, -, -, needed⟩ := h
      cases negated : first.negated with
      | false =>
        rw [negated] at placed
        exact .inl placed
      | true =>
        have must := kept negated ⟨lone.1, lone.2.2⟩
        rw [← tighter.should]
        exact .inr (needed negated ⟨must, tighter.should ▸ lone.2.2⟩)
  · rw [if_neg fun lone' => lone (tighter.onlyAlternatives lone')] at h
    rw [if_neg lone]
    obtain ⟨placed, required, excluded, needed⟩ := h
    refine ⟨placed, fun t ht => required t (tighter.must ht),
      fun t ht => excluded t (tighter.mustNot ht), fun negated needs => ?_⟩
    rw [← tighter.should]
    exact needed negated ⟨kept negated needs, tighter.should ▸ needs.2⟩

/-- A fragment that takes the first place of a chain without one, but not as an alternative. -/
theorem holds_of_attachFirst (tighter : new.Tightens old) (plain : new.IsPlain)
    (plain' : old.IsPlain)
    (kept : old.NeedsAlternative →
      ¬ new.OnlyAlternatives ∧ first.negated ∧ new.must = [])
    (h : (first.attachFirst new).holds document) : old.holds document := by
  rw [attachFirst_holds_iff plain] at h
  rw [plain'.holds_iff]
  by_cases lone : new.OnlyAlternatives
  · have lone' := tighter.onlyAlternatives lone
    exact absurd lone (kept ⟨lone'.1, lone'.2.2⟩).1
  · rw [if_neg lone] at h
    obtain ⟨-, required, excluded, needed⟩ := h
    refine ⟨fun t ht => required t (tighter.must ht), fun t ht => excluded t (tighter.mustNot ht),
      fun needs => ?_⟩
    obtain ⟨-, negated, must⟩ := kept needs
    rw [← tighter.should]
    exact needed negated ⟨must, tighter.should ▸ needs.2⟩

theorem attachFirst_holds_of_loosens (looser : new.Loosens old) (plain : new.IsPlain)
    (plain' : old.IsPlain)
    (kept : first.negated → old.must = [] → old.should = [] → new.should = [])
    (h : (first.attachFirst old).holds document) : (first.attachFirst new).holds document := by
  rw [attachFirst_holds_iff plain'] at h
  rw [attachFirst_holds_iff plain]
  by_cases lone : old.OnlyAlternatives
  · rw [if_pos lone] at h
    rw [if_pos (looser.onlyAlternatives lone)]
    exact h.imp_right fun ⟨t, ht, holds⟩ => ⟨t, looser.should ht, holds⟩
  · rw [if_neg lone] at h
    obtain ⟨placed, required, excluded, needed⟩ := h
    by_cases lone' : new.OnlyAlternatives
    · -- The first fragment stood alone, so it may not have excluded anything.
      rw [if_pos lone']
      obtain ⟨must, mustNot, should⟩ := lone'
      have must' : old.must = [] := looser.must ▸ must
      have should' : old.should = [] := by
        by_cases empty : old.should = []
        · exact empty
        · exact absurd ⟨must', looser.mustNot ▸ mustNot, empty⟩ lone
      cases negated : first.negated with
      | false =>
        rw [negated] at placed
        exact .inl placed
      | true => exact absurd (kept negated must' should') should
    · rw [if_neg lone', looser.must, looser.mustNot]
      refine ⟨placed, required, excluded, fun negated ⟨must, should⟩ => ?_⟩
      have must' : old.must = [] := looser.must ▸ must
      obtain ⟨t, ht, holds⟩ := needed negated
        ⟨must', fun empty => should (kept negated must' empty)⟩
      exact ⟨t, looser.should ht, holds⟩

theorem attachFirst_needsAlternative (negated : first.negated) (needs : old.NeedsAlternative) :
    (first.attachFirst old).NeedsAlternative := by
  by_cases lone : old.OnlyAlternatives
  · rw [attachFirst_of_onlyAlternatives lone]
    exact ⟨needs.1, List.cons_ne_nil _ _⟩
  · rw [attachFirst_of_not_onlyAlternatives lone, if_pos negated]
    exact needs

/-- A chain that only excludes goes on doing so with an excluded first fragment. -/
theorem attachFirst_of_only_excluded (negated : first.negated) (must : old.must = [])
    (should : old.should = []) :
    (first.attachFirst old).must = [] ∧ (first.attachFirst old).should = [] := by
  rw [attachFirst_of_not_onlyAlternatives fun lone => lone.2.2 should, if_pos negated]
  exact ⟨must, should⟩

variable {own nested more : List Fragment} {extra : Option Fragment}

/-- What has to match stays the same if something is joined that is negated, or nothing at all. -/
theorem bucket_must_of_and (rest nested : List Fragment)
    (alike : ∀ f ∈ extra.toList ++ more, f.joiner = .and ∧ f.negated = negated)
    (added : ¬ (negated = false ∧ (extra.isSome ∨ more ≠ []))) :
    (bucket (rest ++ extra.toList ++ (nested ++ more))).must = (bucket (rest ++ nested)).must := by
  cases negated with
  | true =>
    have own := bucket_of_and fun f hf => alike f (List.mem_append_left more hf)
    have below := bucket_of_and fun f hf => alike f (List.mem_append_right extra.toList hf)
    simp [own, below, BoolQuery.none]
  | false =>
    obtain ⟨rfl, rfl⟩ : extra = none ∧ more = [] := by simpa using added
    simp

/-- Nothing that is joined with AND is among alternatives alone. -/
theorem eq_nil_of_onlyAlternatives (joined : ∀ f ∈ more, f.joiner = .and)
    (lone : (bucket (nested ++ more)).OnlyAlternatives) : more = [] := by
  obtain ⟨must, mustNot, -⟩ := lone
  rw [bucket_append_must, List.append_eq_nil_iff] at must
  rw [bucket_append_mustNot, List.append_eq_nil_iff] at mustNot
  have should : (bucket more).should = [] := by
    simp only [bucket, List.map_eq_nil_iff, List.filter_eq_nil_iff]
    exact fun f hf => by simp [isAlternative, joined f hf]
  exact eq_nil_of_bucket must.2 should mustNot.2

/-- Fragments joined with AND only take documents away, unless they release the alternatives. -/
theorem joined_holds_of_and
    (alike : ∀ f ∈ extra.toList ++ more, f.joiner = .and ∧ f.negated = negated)
    (kept : ¬ (joined own nested).ReleasedBy (own.head?.map Fragment.negated) extra.isSome
      (more ≠ []) negated)
    (h : (joined (own ++ extra.toList) (nested ++ more)).holds document) :
    (joined own nested).holds document := by
  cases own with
  | cons first rest =>
    have tighter := bucket_tightens rest extra.toList nested more alike
    refine attachFirst_holds_of_tightens tighter (bucket_isPlain _) (bucket_isPlain _)
      (fun excluded needs => ?_) h
    by_cases added : negated = false ∧ (extra.isSome ∨ more ≠ [])
    · have released := attachFirst_needsAlternative excluded needs
      exact absurd ⟨released, by simp [excluded], .inl added⟩ kept
    · exact (bucket_must_of_and rest nested alike added).trans needs.1
  | nil =>
    cases extra with
    | none =>
      have tighter := bucket_tightens [] [] nested more alike
      refine tighter.holds_of_holds (bucket_isPlain _) (bucket_isPlain _) (fun needs => ?_) h
      by_cases added : negated = false ∧ ((none : Option Fragment).isSome ∨ more ≠ [])
      · exact absurd ⟨needs, by simp, .inl added⟩ kept
      · exact (bucket_must_of_and [] nested alike added).trans needs.1
    | some f =>
      have below : ∀ g ∈ none.toList ++ more, g.joiner = .and ∧ g.negated = negated :=
        fun g hg => alike g (List.mem_cons_of_mem f hg)
      have tighter := bucket_tightens [] [] nested more below
      refine holds_of_attachFirst tighter (bucket_isPlain _) (bucket_isPlain _)
        (fun needs => ?_) h
      -- What is negated takes the first place without releasing anything, unless it is all there is.
      have negated' : negated = true := by
        cases negated with
        | false => exact absurd ⟨needs, by simp, .inl ⟨rfl, .inl rfl⟩⟩ kept
        | true => rfl
      refine ⟨fun lone => kept ?_, (alike f List.mem_cons_self).2.trans negated', ?_⟩
      · have excluded := (tighter.onlyAlternatives lone).2.1
        have empty : more = [] :=
          eq_nil_of_onlyAlternatives (fun g hg => (below g hg).1) lone
        exact ⟨needs, by simp, .inr ⟨negated', rfl, excluded, rfl, fun added => added empty⟩⟩
      · exact (bucket_must_of_and [] nested below (by simp [negated'])).trans needs.1

/-- Fragments joined with OR only add documents, unless they make an alternative necessary. -/
theorem joined_holds_of_or (alike : ∀ f ∈ extra.toList ++ more, f.joiner = .or)
    (nonempty : own ++ nested ≠ [])
    (kept : ¬ (joined own nested).BoundBy (own.head?.map Fragment.negated) extra.isSome (more ≠ []))
    (h : (joined own nested).holds document) :
    (joined (own ++ extra.toList) (nested ++ more)).holds document := by
  cases own with
  | cons first rest =>
    have looser := bucket_loosens rest extra.toList nested more alike
    refine attachFirst_holds_of_loosens looser (bucket_isPlain _) (bucket_isPlain _)
      (fun excluded must should => ?_) h
    by_cases added : extra.isSome ∨ more ≠ []
    · obtain ⟨must', should'⟩ := attachFirst_of_only_excluded excluded must should
      exact absurd (.inl ⟨added, must', should'⟩) kept
    · obtain ⟨rfl, rfl⟩ : extra = none ∧ more = [] := by simpa using added
      simpa using should
  | nil =>
    cases extra with
    | none =>
      have looser := bucket_loosens [] [] nested more alike
      refine looser.holds_of_holds (bucket_isPlain _) (bucket_isPlain _) (fun needs => ?_) h
      intro should
      by_cases added : more = []
      · exact needs.2 (by simpa [added] using should)
      · exact kept (.inl ⟨.inr added, looser.must ▸ needs.1, should⟩)
    | some f =>
      have below : ∀ g ∈ more, g.joiner = .or := fun g hg => alike g (List.mem_cons_of_mem f hg)
      have looser : (bucket (nested ++ more)).Loosens (bucket nested) :=
        bucket_loosens [] [] nested more below
      have lone : (bucket nested).OnlyAlternatives := by
        obtain ⟨must, mustNot⟩ : (bucket nested).must = [] ∧ (bucket nested).mustNot = [] := by
          simpa [BoolQuery.BoundBy, joined] using fun h => kept (.inr ⟨rfl, rfl, h⟩)
        exact ⟨must, mustNot, fun should => nonempty (eq_nil_of_bucket must should mustNot)⟩
      obtain ⟨-, -, needed⟩ := (bucket_isPlain nested).holds_iff.mp h
      obtain ⟨t, ht, holds⟩ := needed ⟨lone.1, lone.2.2⟩
      refine (attachFirst_holds_iff (bucket_isPlain (nested ++ more))).mpr ?_
      rw [if_pos (looser.onlyAlternatives lone)]
      exact .inr ⟨t, looser.should ht, holds⟩

/-! ## The query of a chain of which the alternatives play another part -/

theorem bucket_append (fs gs : List Fragment) :
    bucket (fs ++ gs) = { BoolQuery.none with
      must := (bucket fs).must ++ (bucket gs).must
      should := (bucket fs).should ++ (bucket gs).should
      mustNot := (bucket fs).mustNot ++ (bucket gs).mustNot } := by
  simp [bucket]

/-- The fragments that are joined to a chain stand behind its own and behind all that is nested. -/
theorem bucket_interleaved (rest extra nested more : List Fragment) :
    bucket (rest ++ extra ++ (nested ++ more)) = { BoolQuery.none with
      must := (bucket rest).must ++ (bucket extra).must
        ++ ((bucket nested).must ++ (bucket more).must)
      should := (bucket rest).should ++ (bucket extra).should
        ++ ((bucket nested).should ++ (bucket more).should)
      mustNot := (bucket rest).mustNot ++ (bucket extra).mustNot
        ++ ((bucket nested).mustNot ++ (bucket more).mustNot) } := by
  rw [bucket_append, bucket_append rest extra, bucket_append nested more]

/-- Fragments that have to match are all that has to, if nothing else did. -/
theorem bucket_requiring (rest extra nested more : List Fragment)
    (alike : ∀ f ∈ extra ++ more, f.joiner = .and ∧ f.negated = false)
    (must : (bucket (rest ++ nested)).must = []) :
    bucket (rest ++ extra ++ (nested ++ more))
      = (bucket (rest ++ nested)).requiring ((extra ++ more).map query) := by
  have own := bucket_of_and fun f hf => alike f (List.mem_append_left more hf)
  have below := bucket_of_and fun f hf => alike f (List.mem_append_right extra hf)
  obtain ⟨first, second⟩ : (bucket rest).must = [] ∧ (bucket nested).must = [] := by simpa using must
  rw [bucket_interleaved, bucket_append rest nested, own, below]
  simp [BoolQuery.requiring, BoolQuery.none, first, second]

/-- Alternatives are all that there are, if there was none. -/
theorem bucket_offering (rest extra nested more : List Fragment)
    (alike : ∀ f ∈ extra ++ more, f.joiner = .or) (should : (bucket (rest ++ nested)).should = []) :
    bucket (rest ++ extra ++ (nested ++ more))
      = (bucket (rest ++ nested)).offering ((extra ++ more).map query) := by
  have own := bucket_of_or fun f hf => alike f (List.mem_append_left more hf)
  have below := bucket_of_or fun f hf => alike f (List.mem_append_right extra hf)
  obtain ⟨first, second⟩ : (bucket rest).should = [] ∧ (bucket nested).should = [] := by
    simpa using should
  rw [bucket_interleaved, bucket_append rest nested, own, below]
  simp [BoolQuery.offering, BoolQuery.none, first, second]

/-- Behind what is nested in a chain alternatives are the last ones. -/
theorem bucket_offering_last (alike : ∀ f ∈ more, f.joiner = .or) :
    bucket (nested ++ more) = (bucket nested).offering (more.map query) := by
  rw [bucket_append, bucket_of_or alike]
  simp [BoolQuery.offering, BoolQuery.none, bucket]

/-- A negated first fragment has no part in what has to match. -/
theorem attachFirst_must (negated : first.negated) : (first.attachFirst old).must = old.must := by
  by_cases lone : old.OnlyAlternatives
  · rw [attachFirst_of_onlyAlternatives lone]
  · rw [attachFirst_of_not_onlyAlternatives lone, if_pos negated]

/-- The first fragment of a chain that only excludes is excluded, too. -/
theorem excludes_of_attachFirst (must : (first.attachFirst old).must = [])
    (should : (first.attachFirst old).should = []) :
    first.negated ∧ old.must = [] ∧ old.should = [] ∧
      first.attachFirst old = { old with mustNot := first.query :: old.mustNot } := by
  have mixed : ¬ old.OnlyAlternatives := by
    intro lone
    rw [attachFirst_of_onlyAlternatives lone] at should
    cases should
  rw [attachFirst_of_not_onlyAlternatives mixed] at must should ⊢
  cases negated : first.negated with
  | false =>
    rw [negated] at must
    cases must
  | true =>
    rw [negated] at must should
    exact ⟨rfl, must, should, rfl⟩

/-- Once something has to match, a negated first fragment is no alternative any more. -/
theorem attachFirst_requiring {trees : List QueryTree} (negated : first.negated)
    (added : trees ≠ []) :
    first.attachFirst (old.requiring trees)
      = ((first.attachFirst old).leadExcluded (some first.negated)).requiring trees := by
  have mixed : ¬ (old.requiring trees).OnlyAlternatives :=
    fun lone => added (List.append_eq_nil_iff.mp lone.1).2
  rw [attachFirst_of_not_onlyAlternatives mixed, if_pos negated]
  by_cases lone : old.OnlyAlternatives
  · rw [attachFirst_of_onlyAlternatives lone]
    simp [BoolQuery.leadExcluded, BoolQuery.requiring, lone.2.1]
  · rw [attachFirst_of_not_onlyAlternatives lone, if_pos negated]
    simp [BoolQuery.leadExcluded, BoolQuery.requiring]

/-- Behind nothing else a negated first fragment is an alternative as soon as there are others. -/
theorem attachFirst_offering {trees : List QueryTree} (negated : first.negated)
    (must : old.must = []) (should : old.should = []) (added : trees ≠ []) :
    (first.attachFirst (old.offering trees)).NeedsAlternative ∧
      first.attachFirst (old.offering trees)
        = ({ old with mustNot := first.query :: old.mustNot }.leadAdmitted
            (some first.negated)).offering trees := by
  by_cases others : old.mustNot = []
  · have lone : (old.offering trees).OnlyAlternatives :=
      ⟨must, others, fun empty => added (List.append_eq_nil_iff.mp empty).2⟩
    rw [attachFirst_of_onlyAlternatives lone]
    simp [BoolQuery.NeedsAlternative, BoolQuery.leadAdmitted, BoolQuery.offering, must, should,
      others]
  · have mixed : ¬ (old.offering trees).OnlyAlternatives := fun lone => others lone.2.1
    rw [attachFirst_of_not_onlyAlternatives mixed, if_pos negated]
    simp [BoolQuery.NeedsAlternative, BoolQuery.leadAdmitted, BoolQuery.offering, must, should,
      others, added]

theorem map_query_ne_nil (added : extra.isSome ∨ more ≠ []) :
    (extra.toList ++ more).map query ≠ [] := by
  cases extra <;> simp_all

/-- A single fragment that is joined to a chain of alternatives takes the first place, which is one
among alternatives. -/
theorem joined_of_admits (needs : (joined own nested).NeedsAlternative)
    (admitted : (joined own nested).Admits (own.head?.map Fragment.negated) extra.isSome
      (more ≠ [])) :
    ∃ f ∈ extra, joined (own ++ extra.toList) (nested ++ more)
      = { joined own nested with should := f.query :: (joined own nested).should } := by
  obtain ⟨lead, mustNot, own', below⟩ := admitted
  obtain rfl : own = [] := by simpa using lead
  obtain ⟨f, rfl⟩ := Option.isSome_iff_exists.mp own'
  obtain rfl : more = [] := by simpa using below
  rw [List.append_nil]
  exact ⟨f, rfl, attachFirst_of_onlyAlternatives ⟨needs.1, mustNot, needs.2⟩⟩

/-- What releases the alternatives of a chain otherwise is all that has to match. -/
theorem joined_of_releasedBy
    (alike : ∀ f ∈ extra.toList ++ more, f.joiner = .and ∧ f.negated = negated)
    (released : (joined own nested).ReleasedBy (own.head?.map Fragment.negated) extra.isSome
      (more ≠ []) negated)
    (apart : ¬ (joined own nested).Admits (own.head?.map Fragment.negated) extra.isSome
      (more ≠ [])) :
    (extra.toList ++ more).map query ≠ [] ∧ joined (own ++ extra.toList) (nested ++ more)
      = ((joined own nested).leadExcluded (own.head?.map Fragment.negated)).requiring
          ((extra.toList ++ more).map query) := by
  obtain ⟨needs, lead, ⟨rfl, added⟩ | ⟨-, lead', mustNot, own', below⟩⟩ := released
  case inr => exact absurd ⟨lead', mustNot, own', below⟩ apart
  have added := map_query_ne_nil added
  refine ⟨added, ?_⟩
  cases own with
  | cons first rest =>
    have excluded : first.negated := by simpa using lead
    have must : (bucket (rest ++ nested)).must = [] := attachFirst_must excluded ▸ needs.1
    rw [List.cons_append, joined, bucket_requiring rest extra.toList nested more alike must]
    exact attachFirst_requiring excluded added
  | nil =>
    have must : (bucket nested).must = [] := needs.1
    cases extra with
    | none => exact bucket_requiring [] [] nested more alike must
    | some f =>
      have positive : f.negated = false := (alike f List.mem_cons_self).2
      have last : ∀ g ∈ [] ++ more, g.joiner = .and ∧ g.negated = false :=
        fun g hg => alike g (List.mem_cons_of_mem f hg)
      have behind : bucket (nested ++ more) = (bucket nested).requiring (more.map query) :=
        bucket_requiring [] [] nested more last must
      have mixed : ¬ ((bucket nested).requiring (more.map query)).OnlyAlternatives := by
        intro lone
        have empty : more = [] := by simpa [BoolQuery.requiring, must] using lone.1
        exact apart ⟨rfl, lone.2.1, rfl, fun some => some empty⟩
      show f.attachFirst (bucket (nested ++ more)) = _
      rw [behind, attachFirst_of_not_onlyAlternatives mixed, positive]
      simp [BoolQuery.leadExcluded, BoolQuery.requiring, joined, must]

/-- What is joined with OR and has the first fragment stands in front of all that has to match, or
must not, because there is such a thing in the chain. -/
theorem joined_of_boundBy_first (alike : ∀ f ∈ extra.toList ++ more, f.joiner = .or)
    (nonempty : own ++ nested ≠ [])
    (bound : (joined own nested).BoundBy (own.head?.map Fragment.negated) extra.isSome (more ≠ []))
    (lead : own.head?.map Fragment.negated = none) (shown : extra.isSome) :
    ∃ f ∈ extra, joined (own ++ extra.toList) (nested ++ more)
      = ((joined own nested).offering (more.map query)).leadBy f.negated f.query := by
  obtain rfl : own = [] := by simpa using lead
  obtain ⟨f, rfl⟩ := Option.isSome_iff_exists.mp shown
  refine ⟨f, rfl, ?_⟩
  have mixed : ¬ ((bucket nested).offering (more.map query)).OnlyAlternatives := by
    rintro ⟨must, mustNot, -⟩
    obtain ⟨-, -, should⟩ | ⟨-, -, something⟩ := bound
    · exact nonempty (eq_nil_of_bucket must should mustNot)
    · exact something.elim (· must) (· mustNot)
  have last : ∀ g ∈ more, g.joiner = .or := fun g hg => alike g (List.mem_cons_of_mem f hg)
  show f.attachFirst (bucket (nested ++ more)) = _
  rw [bucket_offering_last last]
  exact attachFirst_of_not_onlyAlternatives mixed

/-- What makes an alternative necessary otherwise is all the alternatives that there are, unless the
first fragment has become one of them. -/
theorem joined_of_boundBy (alike : ∀ f ∈ extra.toList ++ more, f.joiner = .or)
    (bound : (joined own nested).BoundBy (own.head?.map Fragment.negated) extra.isSome (more ≠ []))
    (apart : ¬ (own.head?.map Fragment.negated = none ∧ extra.isSome)) :
    (joined (own ++ extra.toList) (nested ++ more)).NeedsAlternative ∧
      joined (own ++ extra.toList) (nested ++ more)
        = ((joined own nested).leadAdmitted (own.head?.map Fragment.negated)).offering
            ((extra.toList ++ more).map query) := by
  obtain ⟨added, must, should⟩ | ⟨lead, shown, -⟩ := bound
  case inr => exact absurd ⟨lead, shown⟩ apart
  have added := map_query_ne_nil added
  cases own with
  | cons first rest =>
    obtain ⟨excluded, must, should, same⟩ := excludes_of_attachFirst must should
    rw [List.cons_append, joined, bucket_offering rest extra.toList nested more alike should, joined,
      same]
    exact attachFirst_offering excluded must should added
  | nil =>
    cases extra with
    | none =>
      have behind : bucket (nested ++ more) = (bucket nested).offering (more.map query) :=
        bucket_offering_last alike
      show (bucket (nested ++ more)).NeedsAlternative ∧ bucket (nested ++ more) = _
      rw [behind]
      exact ⟨⟨must, fun empty => added (List.append_eq_nil_iff.mp empty).2⟩, rfl⟩
    | some f => exact absurd ⟨rfl, rfl⟩ apart

end Fragment

end SearchCriteria
