import SearchCriteria.Proofs.Provenance
import SearchCriteria.Proofs.Steps

/-!
# Criteria that are built step by step

Criteria can be put together by hand so that an entry stands where its operator does not belong. Steps
never do so: they put every entry where its operator is evaluated, and no boost that they set is
something else than a number. If the criteria that are nested in others or embedded in their operands
are built by steps as well, then this holds at every level. So of all that can be wrong with an operator
only one thing is left, a distance in the unit that has no code.
-/

namespace SearchCriteria

namespace Operand

mutual

/-- The queries that an operand holds, also in sequences, where nothing compiles them. -/
def queries : Operand → List Query
  | .hasChild _ query _ _ => [query]
  | .hasParent _ query _ _ => [query]
  | .sequence items => queriesOf items
  | _ => []

def queriesOf : List Operand → List Query
  | [] => []
  | item :: rest => queries item ++ queriesOf rest

end

theorem mem_queries_of_embedded? {operand : Operand} {query : Query}
    (h : operand.embedded? = some query) : query ∈ operand.queries := by
  cases operand <;> cases h <;> exact List.mem_singleton_self query

end Operand

/-- The criteria that a step is given: those that it joins or nests and those that its operand
holds. -/
def Step.given (step : Step) : List Criteria :=
  match step with
  | .entry _ operand => operand.queries.filterMap Query.criteria?
  | step => step.criteria?.toList

/-- Every entry stands where its operator is evaluated, and the boost is a number. -/
structure Criterion.IsRouted (criterion : Criterion) : Prop where
  query : ∀ entry ∈ criterion.queryEntries, entry.operator.context = .query
  filter : ∀ entry ∈ criterion.filterEntries, entry.operator.context = .filter
  boost : ∀ value ∈ criterion.boost, value.isNaN = false

theorem Step.context_of_entryIn? {context : OperatorContext} {step : Step} {entry : Entry}
    (h : step.entryIn? context = some entry) : entry.operator.context = context := by
  cases step with
  | entry operator operand =>
    obtain ⟨same, ⟨⟩⟩ := Option.ite_none_right_eq_some.mp h
    exact same
  | _ => cases h

theorem Step.eq_entry_of_entryIn? {context : OperatorContext} {step : Step} {entry : Entry}
    (h : step.entryIn? context = some entry) : step = .entry entry.operator entry.operand := by
  cases step with
  | entry operator operand =>
    obtain ⟨-, ⟨⟩⟩ := Option.ite_none_right_eq_some.mp h
    rfl
  | _ => cases h

theorem Criterion.isRouted_ofRun (run : List Step) : (ofRun run).IsRouted where
  query entry mem := by
    obtain ⟨step, -, added⟩ := List.mem_filterMap.mp mem
    exact Step.context_of_entryIn? added
  filter entry mem := by
    obtain ⟨step, -, added⟩ := List.mem_filterMap.mp mem
    exact Step.context_of_entryIn? added
  boost value mem := by
    obtain ⟨-, number⟩ := Option.filter_eq_some_iff.mp mem
    simpa using number

namespace Criteria

variable {criteria inner : Criteria}

/-- Steps never put an entry elsewhere. -/
theorem isRouted_ofSteps {steps : List Step} {criterion : Criterion}
    (mem : criterion ∈ (ofSteps steps).chain) : criterion.IsRouted := by
  rw [chain_ofSteps] at mem
  obtain ⟨run, -, rfl⟩ := List.mem_map.mp mem
  exact Criterion.isRouted_ofRun run

theorem mem_of_mem_runs {steps run : List Step} {step : Step} (runs_mem : run ∈ runs steps)
    (mem : step ∈ run) : step ∈ steps := by
  have since : step ∈ sinceStart steps := by
    rw [← List.flatten_splitBy (fun _ next => next.isEdit) (sinceStart steps)]
    exact List.mem_flatten_of_mem runs_mem mem
  rcases List.mem_append.mp since with start | later
  · have last : step ∈ (steps.filter Step.isStart).getLast? := by simpa using start
    exact List.mem_of_mem_filter (List.mem_of_getLast? last)
  · exact (List.rtakeWhile_suffix _ _).mem later

/-- Criteria hold a query in the operand of an entry, scoring or not. -/
def Carries (criteria : Criteria) (query : Query) : Prop :=
  ∃ owner ∈ criteria.chain, ∃ entry ∈ owner.queryEntries ++ owner.filterEntries,
    query ∈ entry.operand.queries

theorem Embeds.carries {query : Query} (h : criteria.Embeds query) : criteria.Carries query := by
  obtain ⟨owner, mem, entry, mem', embedded⟩ := h
  exact ⟨owner, mem, entry, List.mem_append_left _ mem', Operand.mem_queries_of_embedded? embedded⟩

/-- What steps nest was given to one of them. -/
theorem given_of_nests {steps : List Step} (nests : (ofSteps steps).Nests inner) :
    ∃ step ∈ steps, inner ∈ step.given := by
  obtain ⟨owner, mem, mem'⟩ := nests
  rw [chain_ofSteps] at mem
  obtain ⟨run, inRuns, rfl⟩ := List.mem_map.mp mem
  obtain ⟨step, inRun, puts⟩ := List.mem_filterMap.mp mem'
  refine ⟨step, mem_of_mem_runs inRuns inRun, ?_⟩
  cases step with
  | entry => cases puts
  | _ => exact Option.mem_toList.mpr puts

/-- And so were the criteria that are held in operands. -/
theorem given_of_carries {steps : List Step} {query : Query} (carries : (ofSteps steps).Carries query)
    (consists : query.criteria? = some inner) : ∃ step ∈ steps, inner ∈ step.given := by
  obtain ⟨owner, mem, entry, stands, held⟩ := carries
  rw [chain_ofSteps] at mem
  obtain ⟨run, inRuns, rfl⟩ := List.mem_map.mp mem
  have added : ∃ context, ∃ step ∈ run, step.entryIn? context = some entry := by
    rcases List.mem_append.mp stands with scores | filters
    · exact ⟨.query, List.mem_filterMap.mp scores⟩
    · exact ⟨.filter, List.mem_filterMap.mp filters⟩
  obtain ⟨context, step, inRun, added⟩ := added
  refine ⟨step, mem_of_mem_runs inRuns inRun, ?_⟩
  rw [Step.eq_entry_of_entryIn? added]
  exact List.mem_filterMap.mpr ⟨query, held, consists⟩

/-- Criteria that are built by steps, as are all criteria that the steps are given. -/
inductive IsBuilt : Criteria → Prop where
  | ofSteps (steps : List Step)
      (given : ∀ step ∈ steps, ∀ criteria ∈ step.given, IsBuilt criteria) : IsBuilt (ofSteps steps)

/-- Criteria are part of others at some level: nested in them, or held in an operand. -/
inductive Encloses : Criteria → Criteria → Prop where
  | itself (criteria : Criteria) : Encloses criteria criteria
  | nested {criteria nested inner : Criteria} (nests : criteria.Nests nested)
      (below : Encloses nested inner) : Encloses criteria inner
  | held {criteria asked inner : Criteria} {query : Query} (carries : criteria.Carries query)
      (consists : query.criteria? = some asked) (below : Encloses asked inner) :
      Encloses criteria inner

theorem Reaches.encloses {level : Nat} (h : criteria.Reaches level inner) :
    criteria.Encloses inner := by
  induction h with
  | itself criteria => exact .itself criteria
  | nested nests _ ih => exact .nested nests ih
  | embedded embeds consists _ ih => exact .held embeds.carries consists ih

/-- Whatever is part of built criteria is built. -/
theorem IsBuilt.of_encloses (built : criteria.IsBuilt) (encloses : criteria.Encloses inner) :
    inner.IsBuilt := by
  induction encloses with
  | itself => exact built
  | nested nests _ ih =>
    obtain ⟨steps, given⟩ := built
    obtain ⟨step, mem, inStep⟩ := given_of_nests nests
    exact ih (given step mem _ inStep)
  | held carries consists _ ih =>
    obtain ⟨steps, given⟩ := built
    obtain ⟨step, mem, inStep⟩ := given_of_carries carries consists
    exact ih (given step mem _ inStep)

theorem IsBuilt.isRouted {criterion : Criterion} (built : criteria.IsBuilt)
    (involves : criteria.Involves criterion) : criterion.IsRouted := by
  obtain ⟨level, inner, reached, mem⟩ := involves
  obtain ⟨steps, -⟩ := built.of_encloses reached.encloses
  exact isRouted_ofSteps mem

end Criteria

/-- The only fault of an operator that a criterion is to blame for if its entries stand where they
belong. -/
theorem Criterion.Blamed.neutral_of_isRouted {resolve : Resolver} {criterion : Criterion}
    {context : OperatorContext} {name : String} {place : Context} (routed : criterion.IsRouted)
    (h : criterion.Blamed resolve context (.unsupportedOperator name place)) :
    (name = DistanceUnit.neutral.label ∧ place = .distanceUnit) ∧
      ∃ entry ∈ criterion.filterEntries, entry.HasNeutralUnit := by
  have stands_routed {entry : Entry} (stands : entry ∈ criterion.entriesIn context) :
      entry.operator.context = context := by
    cases context with
    | query => exact routed.query entry stands
    | filter => exact routed.filter entry stands
  -- Of the faults that a criterion is to blame for, two name an operator as such.
  cases h with
  | misplaced stands elsewhere => exact absurd (stands_routed stands) elsewhere
  | @neutralUnit entry stands neutral =>
    have filters : entry.operator.context = .filter := by
      obtain ⟨centre, value, rfl⟩ := neutral
      rfl
    rw [stands_routed stands] at filters
    subst filters
    exact ⟨⟨rfl, rfl⟩, entry, stands, neutral⟩

namespace Compiler

/-- What criteria are refused with is explained by them, in whatever way they are compiled. -/
theorem explains_of_error {c : Compiler} {criteria : Criteria} {fault : Fault}
    (failed : c.compile criteria = .error fault ∨ c.build criteria = .error fault ∨
      c.compileFilter criteria = .error fault) : c.Explains (.criteria criteria) fault := by
  rcases failed with scoring | whole | filtering
  · exact c.hereditary_explanation.holds_criteria criteria 0 fault scoring
  · exact c.hereditary_explanation.holds_query (.criteria criteria) 0 fault whole
  · rcases Filter.ofCriteria_fault filtering with rfl | ⟨level, criterion, within, blamed⟩
    · exact .criteriaTooDeep
    · exact .of_blamed within.involves blamed

end Compiler

/-- Criteria that are built by steps are routed. All that is part of them is built by steps, so that
each criterion says what its run of steps says, with every entry where its operator is evaluated, in the
order of the steps, and with a boost that is a number. A step that neither starts nor joins a criterion
changes the last one only. And the only fault of an operator that there can be is a distance that a
filtering entry gives in the unit without a code. -/
theorem steps_route_entries {criteria : Criteria} (built : criteria.IsBuilt) :
    (∀ inner, criteria.Encloses inner → ∃ steps, inner = .ofSteps steps ∧
      inner.chain = (Criteria.runs steps).map Criterion.ofRun ∧
      ∀ criterion ∈ inner.chain, criterion.IsRouted) ∧
    (∀ (before : Criteria) (step : Step), step.isEdit = true →
      (∀ earlier last, before.chain = earlier ++ [last] →
        (before.extend step).chain = earlier ++ [step.edit last]) ∧
      (before.chain = [] → ∃ made, (before.extend step).chain = [made] ∧ made.field = none)) ∧
    ∀ (c : Compiler) (name : String) (place : Context),
      c.compile criteria = .error (.unsupportedOperator name place) ∨
        c.build criteria = .error (.unsupportedOperator name place) ∨
        c.compileFilter criteria = .error (.unsupportedOperator name place) →
      (name = DistanceUnit.neutral.label ∧ place = .distanceUnit) ∧
        ∃ criterion, criteria.Involves criterion ∧
          ∃ entry ∈ criterion.filterEntries, entry.HasNeutralUnit := by
  refine ⟨?_, fun before step edits => before.chain_extend_of_isEdit edits, ?_⟩
  · intro inner encloses
    obtain ⟨steps, -⟩ := built.of_encloses encloses
    exact ⟨steps, rfl, Criteria.chain_ofSteps steps, fun _ mem => Criteria.isRouted_ofSteps mem⟩
  · intro c name place failed
    cases Compiler.explains_of_error failed with
    | blamed involves blamed =>
      obtain ⟨_, ⟨⟩, involves⟩ := involves
      obtain ⟨neutral, cause⟩ := blamed.neutral_of_isRouted (built.isRouted involves)
      exact ⟨neutral, _, involves, cause⟩

/-- Places that are not near a point, by a distance without a unit. -/
def notNearby : List Step :=
  [.start (.named "place"), .boost .nan, .negate,
    .within (.geoPoint ⟨.zero false, .zero false⟩) (.distance ⟨.zero false, .neutral⟩)]

/-- Whose children are asked for by such places. -/
def childrenNotNearby : List Step :=
  [.negate, .join .or (.named "home"),
    .entry .hasChild (.hasChild "person" (.wrapped (.criteria (.ofSteps notNearby))) none none)]

theorem steps_route_entries_neutral :
    (Criteria.ofSteps childrenNotNearby).IsBuilt ∧
      Compiler.standard.build (.ofSteps childrenNotNearby)
        = .error (.unsupportedOperator DistanceUnit.neutral.label .distanceUnit) ∧
      ∃ criterion, (Criteria.ofSteps childrenNotNearby).Involves criterion ∧
        ∃ entry ∈ criterion.filterEntries, entry.HasNeutralUnit := by
  have inner : (Criteria.ofSteps notNearby).IsBuilt :=
    .ofSteps notNearby (by simp [notNearby, Step.given, Step.criteria?, Step.within, Operand.queries,
      Operand.queriesOf])
  have built : (Criteria.ofSteps childrenNotNearby).IsBuilt :=
    .ofSteps childrenNotNearby (by simp [childrenNotNearby, Step.given, Step.criteria?, Operand.queries,
      Query.criteria?, inner])
  have failed : Compiler.standard.build (.ofSteps childrenNotNearby)
      = .error (.unsupportedOperator DistanceUnit.neutral.label .distanceUnit) := rfl
  have cause := (steps_route_entries built).2.2 .standard _ _ (.inr (.inl failed))
  exact ⟨built, failed, cause.2⟩

end SearchCriteria
