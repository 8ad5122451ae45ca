import SearchCriteria.Proofs.Occurrence
import SearchCriteria.Proofs.Simulation

/-!
# With and without the other kinds of queries

A compiler that embeds criteria only does by itself what a compiler for all queries hands on to the
dispatch of each embedded query. The two agree on every tree and on every fault, except that the
restricted one refuses an embedded query of another kind; then there is such a query somewhere in
the criteria.

This is a relation between two results that goes along with binding, so the two compilations are
compared as in every simulation: level by level, through nested criteria and embedded queries.
-/

namespace SearchCriteria

/-- What a restricted compilation makes of something is what the full one makes of it, unless it
refuses a kind of queries that is not criteria, and is present. -/
def AgreesUnless (present : QueryKind → Prop) {α : Type} (restricted full : Except Fault α) :
    Prop :=
  restricted = full ∨
    ∃ kind, kind ≠ .criteria ∧ present kind ∧ restricted = .error (.unsupportedQuery kind)

namespace AgreesUnless

variable {present present' : QueryKind → Prop} {α : Type} {restricted full : Except Fault α}

theorem mono (h : AgreesUnless present restricted full)
    (more : ∀ kind, present kind → present' kind) : AgreesUnless present' restricted full := by
  rcases h with same | ⟨kind, other, here, refused⟩
  · exact .inl same
  · exact .inr ⟨kind, other, more kind here, refused⟩

/-- A refusal that excuses the first of two steps excuses both. -/
theorem isCongruence (present : QueryKind → Prop) :
    IsCongruence fun _ => AgreesUnless present where
  refl x := .inl rfl
  bind {_ _ x _ _ _} first second := by
    rcases first with rfl | ⟨kind, other, here, rfl⟩
    · cases x with
      | error fault => exact .inl rfl
      | ok a => exact second a
    · exact .inr ⟨kind, other, here, rfl⟩

/-- The restricted compilation comes to no other result. -/
theorem eq_of_ok (h : AgreesUnless present restricted full) {a : α} (made : restricted = .ok a) :
    full = .ok a := by
  rcases h with rfl | ⟨kind, -, -, refused⟩
  · exact made
  · rw [made] at refused
    cases refused

end AgreesUnless

namespace Compiler

/-- A compiler on its own, which does not embed other queries than criteria. -/
def bare (resolve : Resolver) (settings : Settings) : Compiler :=
  { resolve, settings, embedding := .criteriaOnly }

/-- The compiler for every query, whatever its settings. -/
def full (resolve : Resolver) (settings : Settings) : Compiler :=
  { resolve, settings, embedding := .everyQuery }

theorem bare_alike (resolve : Resolver) (settings : Settings) :
    (bare resolve settings).Alike (full resolve settings) := ⟨rfl, rfl⟩

theorem checked_eq_ok_iff {resolve : Resolver} {settings : Settings} {c : Compiler} :
    checked resolve settings = .ok c ↔ settings.problem? = none ∧ c = full resolve settings := by
  rw [checked]
  simp only [bind_eq_ok_iff, pure_eq_ok_iff, Settings.check_eq_ok_iff]
  constructor
  · rintro ⟨_, ⟨rfl, sound⟩, rfl⟩
    exact ⟨sound, rfl⟩
  · rintro ⟨sound, rfl⟩
    exact ⟨settings, ⟨rfl, sound⟩, rfl⟩

end Compiler

/-- Queries of a kind are embedded in criteria, at whatever level. -/
def Criteria.EmbedsKind (criteria : Criteria) (kind : QueryKind) : Prop :=
  ∃ query, criteria.EmbedsDeep query ∧ query.kind = kind

/-- A query is of a kind, or it is criteria in which queries of that kind are embedded. -/
def Query.ShowsKind (query : Query) (kind : QueryKind) : Prop :=
  query.kind = kind ∨ ∃ criteria, query = .criteria criteria ∧ criteria.EmbedsKind kind

theorem Criteria.Nests.embedsKind {criteria nested : Criteria} {kind : QueryKind}
    (h : criteria.Nests nested) (inside : nested.EmbedsKind kind) : criteria.EmbedsKind kind := by
  obtain ⟨query, deep, same⟩ := inside
  exact ⟨query, h.deep deep, same⟩

theorem Criteria.Embeds.embedsKind {criteria : Criteria} {query : Query} {kind : QueryKind}
    (h : criteria.Embeds query) (shows : query.ShowsKind kind) : criteria.EmbedsKind kind := by
  rcases shows with same | ⟨asked, rfl, other, deep, same⟩
  · exact ⟨query, h.deep, same⟩
  · exact ⟨other, h.deep_of_criteria rfl deep, same⟩

namespace Compiler

variable {resolve : Resolver} {settings : Settings} {depth : Nat}

/-- A query of another kind is refused as soon as the depth allows to look at it. -/
theorem subQueryAt_agrees_of_kind {query : Query} (other : query.kind ≠ .criteria) :
    AgreesUnless query.ShowsKind ((bare resolve settings).subQueryAt depth query)
      ((full resolve settings).subQueryAt depth query) := by
  rw [subQueryAt, subQueryAt, allowAt, allowAt]
  by_cases deep : settings.maxDepth < depth
  · rw [if_pos (show (bare resolve settings).settings.maxDepth < depth from deep),
      if_pos (show (full resolve settings).settings.maxDepth < depth from deep)]
    exact .inl rfl
  · rw [if_neg (show ¬ (bare resolve settings).settings.maxDepth < depth from deep),
      if_pos ⟨rfl, other⟩]
    exact .inr ⟨query.kind, other, .inl rfl, rfl⟩

theorem allowAt_criteria :
    (bare resolve settings).allowAt depth .criteria =
      (full resolve settings).allowAt depth .criteria := by
  simp [allowAt, bare, full]

theorem hereditary_agreement (resolve : Resolver) (settings : Settings) :
    Hereditary
      (fun query => ∀ depth, AgreesUnless query.ShowsKind
        ((bare resolve settings).subQueryAt depth query)
        ((full resolve settings).subQueryAt depth query))
      (fun criteria => ∀ depth, AgreesUnless criteria.EmbedsKind
        ((bare resolve settings).criteriaAt depth criteria)
        ((full resolve settings).criteriaAt depth criteria)) where
  step criteria nests embeds depth := by
    have alike := bare_alike resolve settings
    apply criteriaAt_related (AgreesUnless.isCongruence criteria.EmbedsKind) alike Iff.rfl
    · intro query embedded
      exact (embeds query embedded (depth + 1)).mono fun _ => embedded.embedsKind
    · intro nested inside
      exact (nests nested inside (depth + 1)).mono fun _ => inside.embedsKind
  criteria criteria ih depth := by
    have congruence := AgreesUnless.isCongruence (Query.criteria criteria).ShowsKind
    have scoring : AgreesUnless (Query.criteria criteria).ShowsKind _ _ :=
      (ih depth).mono fun _ inside => .inr ⟨criteria, rfl, inside⟩
    rw [subQueryAt, subQueryAt, Query.kind, allowAt_criteria]
    apply congruence.bind (.inl rfl)
    intro allowed
    exact queryAt_criteria_related congruence (bare_alike resolve settings) scoring
  wrapped query _ _ := subQueryAt_agrees_of_kind (by rintro ⟨⟩)
  text source _ := subQueryAt_agrees_of_kind (by rintro ⟨⟩)
  native tree _ := subQueryAt_agrees_of_kind (by rintro ⟨⟩)
  template id params _ := subQueryAt_agrees_of_kind (by rintro ⟨⟩)

/-- On its own a compiler makes of criteria what they are dispatched to, or refuses a kind of
queries that is embedded in them. What it makes is the same either way, with the filter and without.
-/
theorem bare_agrees {facade : Compiler} (valid : checked resolve settings = .ok facade)
    (criteria : Criteria) :
    AgreesUnless criteria.EmbedsKind ((bare resolve settings).build criteria)
        (facade.dispatch (.criteria criteria) id) ∧
      AgreesUnless criteria.EmbedsKind ((bare resolve settings).compile criteria)
        (facade.compile criteria) ∧
      (∀ tree, (bare resolve settings).build criteria = .ok tree →
        facade.dispatch (.criteria criteria) id = .ok tree) ∧
      ∀ tree, (bare resolve settings).compile criteria = .ok tree →
        facade.compile criteria = .ok tree := by
  obtain ⟨-, rfl⟩ := checked_eq_ok_iff.mp valid
  have scoring : AgreesUnless criteria.EmbedsKind ((bare resolve settings).compile criteria)
      ((full resolve settings).compile criteria) :=
    (hereditary_agreement resolve settings).holds_criteria criteria 0
  have whole : AgreesUnless criteria.EmbedsKind ((bare resolve settings).build criteria)
      ((full resolve settings).dispatch (.criteria criteria) id) :=
    queryAt_criteria_related (AgreesUnless.isCongruence _) (bare_alike resolve settings) scoring
  exact ⟨whole, scoring, fun _ => whole.eq_of_ok, fun _ => scoring.eq_of_ok⟩

/-- A wrapped query for children, which asks for a field, beside an exclusion. -/
def wrappedChildren : Criteria :=
  ⟨[.present "a" .and true, { Criterion.on (.named "b") with
    queryEntries := [⟨.hasChild, .hasChild "c"
      (.wrapped (.criteria ⟨[.present "d" .and false]⟩)) none none⟩] }]⟩

/-- To wrap a query is enough for it to be refused, and it is found where the refusal points to. -/
theorem bare_agrees_wrapped :
    (bare .identity .standard).build wrappedChildren ≠
        standard.dispatch (.criteria wrappedChildren) id ∧
      wrappedChildren.EmbedsKind .wrapped := by
  have refused : (bare .identity .standard).build wrappedChildren =
    .error (.unsupportedQuery .wrapped) := rfl
  have found : standard.dispatch (.criteria wrappedChildren) id = .ok (some _) := rfl
  have differs : (bare .identity .standard).build wrappedChildren ≠
      standard.dispatch (.criteria wrappedChildren) id := by
    rw [refused, found]
    rintro ⟨⟩
  have valid : checked .identity .standard = .ok standard := rfl
  rcases (bare_agrees valid wrappedChildren).1 with same | ⟨kind, -, present, named⟩
  · exact absurd same differs
  · rw [refused] at named
    cases named
    exact ⟨differs, present⟩

end Compiler

end SearchCriteria
