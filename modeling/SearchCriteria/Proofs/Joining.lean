import SearchCriteria.Compile.Fragment
import SearchCriteria.Proofs.Matching

/-!
# What joined fragments hold for

The fragments of a chain become one boolean query. Its clauses are read off the fragments behind the
first one; the first one is an alternative if all others are, and otherwise it goes by its negation.
What the boolean query holds for follows from the clauses alone.
-/

namespace SearchCriteria

/-- Nothing but alternatives. -/
def BoolQuery.OnlyAlternatives (q : BoolQuery) : Prop :=
  q.must = [] ∧ q.mustNot = [] ∧ q.should ≠ []

instance (q : BoolQuery) : Decidable q.OnlyAlternatives :=
  inferInstanceAs (Decidable (_ ∧ _ ∧ _))

namespace Fragment

variable {document : Document} {first : Fragment} {rest : BoolQuery}

/-- The boolean query of a chain, whether or not there is anything to ask for. -/
def joined : List Fragment → List Fragment → BoolQuery
  | [], nested => bucket nested
  | first :: rest, nested => first.attachFirst (bucket (rest ++ nested))

theorem join_eq_joined (own nested : List Fragment) :
    join own nested = if own ++ nested = [] then none else some (.bool (joined own nested)) := by
  cases own <;> rfl

/-- Every fragment has a place in one of three clauses. -/
theorem place_cases (f : Fragment) : f.isAlternative ∨ f.isExcluded ∨ f.isRequired := by
  obtain ⟨query, joiner, negated⟩ := f
  cases joiner <;> cases negated <;> simp [isAlternative, isExcluded, isRequired]

@[simp] theorem bucket_append_must (fs gs : List Fragment) :
    (bucket (fs ++ gs)).must = (bucket fs).must ++ (bucket gs).must := by
  simp [bucket]

@[simp] theorem bucket_append_should (fs gs : List Fragment) :
    (bucket (fs ++ gs)).should = (bucket fs).should ++ (bucket gs).should := by
  simp [bucket]

@[simp] theorem bucket_append_mustNot (fs gs : List Fragment) :
    (bucket (fs ++ gs)).mustNot = (bucket fs).mustNot ++ (bucket gs).mustNot := by
  simp [bucket]

theorem bucket_isPlain (fs : List Fragment) : (bucket fs).IsPlain :=
  ⟨rfl, rfl⟩

/-- Fragments leave a trace in their boolean query. -/
theorem eq_nil_of_bucket {fs : List Fragment} (must : (bucket fs).must = [])
    (should : (bucket fs).should = []) (mustNot : (bucket fs).mustNot = []) : fs = [] := by
  refine List.eq_nil_iff_forall_not_mem.mpr fun f hf => ?_
  simp only [bucket, List.map_eq_nil_iff, List.filter_eq_nil_iff] at must should mustNot
  rcases place_cases f with alternative | excluded | required
  · exact should f hf alternative
  · exact mustNot f hf excluded
  · exact must f hf required

theorem bucket_of_or {fs : List Fragment} (h : ∀ f ∈ fs, f.joiner = .or) :
    bucket fs = { BoolQuery.none with should := fs.map query } := by
  have alternative : fs.filter isAlternative = fs :=
    List.filter_eq_self.mpr fun f hf => by simp [isAlternative, h f hf]
  have excluded : fs.filter isExcluded = [] :=
    List.filter_eq_nil_iff.mpr fun f hf => by simp [isExcluded, h f hf]
  have required : fs.filter isRequired = [] :=
    List.filter_eq_nil_iff.mpr fun f hf => by simp [isRequired, h f hf]
  rw [bucket, alternative, excluded, required]
  rfl

theorem bucket_of_and {fs : List Fragment} {negated : Bool}
    (h : ∀ f ∈ fs, f.joiner = .and ∧ f.negated = negated) :
    bucket fs = if negated then { BoolQuery.none with mustNot := fs.map query }
      else { BoolQuery.none with must := fs.map query } := by
  have alternative : fs.filter isAlternative = [] :=
    List.filter_eq_nil_iff.mpr fun f hf => by simp [isAlternative, h f hf]
  have excluded : fs.filter isExcluded = if negated then fs else [] := by
    cases negated
    · exact List.filter_eq_nil_iff.mpr fun f hf => by simp [isExcluded, h f hf]
    · exact List.filter_eq_self.mpr fun f hf => by simp [isExcluded, h f hf]
  have required : fs.filter isRequired = if negated then [] else fs := by
    cases negated
    · exact List.filter_eq_self.mpr fun f hf => by simp [isRequired, h f hf]
    · exact List.filter_eq_nil_iff.mpr fun f hf => by simp [isRequired, h f hf]
  rw [bucket, alternative, excluded, required]
  cases negated <;> rfl

theorem attachFirst_isPlain (plain : rest.IsPlain) : (first.attachFirst rest).IsPlain := by
  unfold attachFirst
  split
  · exact ⟨plain.filter, plain.minimum⟩
  · split <;> exact ⟨plain.filter, plain.minimum⟩

theorem joined_isPlain (own nested : List Fragment) : (joined own nested).IsPlain := by
  cases own with
  | nil => exact bucket_isPlain nested
  | cons first rest => exact attachFirst_isPlain (bucket_isPlain _)

theorem attachFirst_of_onlyAlternatives (h : rest.OnlyAlternatives) :
    first.attachFirst rest = { rest with should := first.query :: rest.should } := by
  obtain ⟨must, mustNot, should⟩ := h
  rw [attachFirst, if_pos (by simp [must, mustNot, should])]

theorem attachFirst_of_not_onlyAlternatives (h : ¬ rest.OnlyAlternatives) :
    first.attachFirst rest =
      if first.negated then { rest with mustNot := first.query :: rest.mustNot }
      else { rest with must := first.query :: rest.must } := by
  rw [attachFirst, if_neg]
  intro lone
  simp only [Bool.and_eq_true, Bool.not_eq_true', List.isEmpty_iff, List.isEmpty_eq_false_iff]
    at lone
  exact h ⟨lone.1.2, lone.2, lone.1.1⟩

/-- Behind alternatives alone the first fragment is one more of them. Behind anything else it has to
match, or must not, and it is what has to match where nothing else does. -/
theorem attachFirst_holds_iff (plain : rest.IsPlain) :
    (first.attachFirst rest).holds document ↔
      if rest.OnlyAlternatives then
        first.query.holds document ∨ ∃ t ∈ rest.should, t.holds document
      else
        first.query.holds document = !first.negated ∧ (∀ t ∈ rest.must, t.holds document) ∧
          (∀ t ∈ rest.mustNot, t.holds document = false) ∧
          (first.negated → rest.NeedsAlternative → ∃ t ∈ rest.should, t.holds document) := by
  rw [(attachFirst_isPlain plain).holds_iff]
  split
  case isTrue lone =>
    rw [attachFirst_of_onlyAlternatives lone]
    obtain ⟨must, mustNot, -⟩ := lone
    simp [BoolQuery.NeedsAlternative, must, mustNot]
  case isFalse mixed =>
    rw [attachFirst_of_not_onlyAlternatives mixed]
    cases negated : first.negated with
    | false => simp [BoolQuery.NeedsAlternative, and_assoc]
    | true => simp [BoolQuery.NeedsAlternative, and_left_comm, and_assoc]

end Fragment

end SearchCriteria
