import Mathlib.Data.List.DropRight
import Mathlib.Data.List.SplitBy
import SearchCriteria.Criteria.Building

/-!
# Runs of steps

A list of steps falls into runs. A run begins with the step that starts or joins a criterion and goes
on as long as steps edit it; steps that edit before there is a criterion are a run of their own. A step
that starts forgets what came before it. Each run says what one criterion is, so criteria that are
built step by step can be read off the steps.
-/

namespace SearchCriteria

/-- An item that is related to what is before it goes to the last part of a list that is split. -/
theorem splitBy_concat {α : Type} {r : α → α → Bool} {items last : List α} {parts : List (List α)}
    {item : α} (split : items.splitBy r = parts ++ [last])
    (related : ∀ before ∈ last.getLast?, r before item) :
    (items ++ [item]).splitBy r = parts ++ [last ++ [item]] := by
  -- The parts of a split are told by their laws, and only what the laws say of the last one changes.
  obtain ⟨whole, nonempty, chains, breaks⟩ := List.splitBy_eq_iff.mp split
  have some : last ≠ [] := by
    rintro rfl
    exact nonempty (by simp)
  refine List.splitBy_eq_iff.mpr ⟨by simp [whole], ?_, ?_, ?_⟩
  · simp only [List.mem_append, List.mem_singleton, not_or] at nonempty ⊢
    exact ⟨nonempty.1, by simp⟩
  · intro part mem
    rcases List.mem_append.mp mem with earlier | mem
    · exact chains part (List.mem_append_left _ earlier)
    · rw [List.mem_singleton.mp mem, List.isChain_append]
      refine ⟨chains last (by simp), List.isChain_singleton item, ?_⟩
      simpa using related
  · rw [List.isChain_append] at breaks ⊢
    refine ⟨breaks.1, List.isChain_singleton _, ?_⟩
    intro before mem after mem'
    obtain ⟨present, _, apart⟩ := breaks.2.2 before mem last (by simp)
    obtain rfl : last ++ [item] = after := by simpa using mem'
    exact ⟨present, by simp, by rwa [List.head_append_of_ne_nil some]⟩

namespace Step

/-- The criterion that a step starts or joins. -/
def opened? : Step → Option Criterion
  | .start field => some (.on field)
  | .join joiner field => some { Criterion.on field with joiner }
  | .joinCriteria joiner criteria => some { Criterion.blank with joiner, nested := [criteria] }
  | .nest _ | .negate | .boost _ | .entry .. => none

/-- A step that edits the last criterion. -/
def isEdit (step : Step) : Bool :=
  step.opened?.isNone

def isStart : Step → Bool
  | .start _ => true
  | _ => false

def negates : Step → Bool
  | .negate => true
  | _ => false

/-- The entry that a step adds, if its operator has a context. -/
def entryIn? (context : OperatorContext) : Step → Option Entry
  | .entry operator operand => if operator.context = context then some ⟨operator, operand⟩ else none
  | _ => none

/-- The criteria that a step joins or nests. -/
def criteria? : Step → Option Criteria
  | .joinCriteria _ criteria => some criteria
  | .nest criteria => some criteria
  | _ => none

/-- The boost that a step sets. -/
def boost? : Step → Option Double
  | .boost value => some value
  | _ => none

/-- What a step makes of the last criterion. -/
def edit : Step → Criterion → Criterion
  | .nest criteria, last => { last with nested := last.nested ++ [criteria] }
  | .negate, last => { last with negated := true }
  | .boost value, last => last.setBoost value
  | .entry operator operand, last => last.addEntry ⟨operator, operand⟩
  | .start _, last | .join .., last | .joinCriteria .., last => last

@[simp] theorem field_edit (step : Step) (last : Criterion) : (step.edit last).field = last.field := by
  cases step with
  | entry operator operand =>
    rw [edit, Criterion.addEntry]
    cases operator.context <;> rfl
  | _ => rfl

end Step

/-- The criterion that a run of steps says. It is opened by the first step of the run; the others
negate it, add entries or nested criteria, or set the boost, of which the last one counts unless it is
no number. -/
def Criterion.ofRun (run : List Step) : Criterion :=
  let opened := (run.head?.bind Step.opened?).getD blank
  { opened with
    negated := run.any Step.negates
    queryEntries := run.filterMap (Step.entryIn? .query)
    filterEntries := run.filterMap (Step.entryIn? .filter)
    boost := (run.reverse.findSome? Step.boost?).filter fun value => !value.isNaN
    nested := run.filterMap Step.criteria? }

namespace Criterion

theorem ofRun_of_opened {step : Step} {criterion : Criterion} (opens : step.opened? = some criterion) :
    ofRun [step] = criterion := by
  cases step <;> cases opens <;> rfl

/-- A step that edits changes the criterion of its run as it changes any. -/
theorem ofRun_concat (run : List Step) {step : Step} (edits : step.isEdit = true) :
    ofRun (run ++ [step]) = step.edit (ofRun run) := by
  have opened : (run ++ [step]).head?.bind Step.opened? = run.head?.bind Step.opened? := by
    cases run with
    | nil => simpa [Step.isEdit] using edits
    | cons => rfl
  simp only [ofRun, opened]
  cases step with
  | start | join | joinCriteria => cases edits
  | nest | negate =>
    simp [Step.edit, Step.negates, Step.entryIn?, Step.boost?, Step.criteria?, List.findSome?_cons]
  | boost value =>
    cases number : value.isNaN <;>
      simp [Step.edit, Step.negates, Step.entryIn?, Step.boost?, Step.criteria?, List.findSome?_cons,
        setBoost, number]
  | entry operator operand =>
    cases context : operator.context <;>
      simp [Step.edit, Step.negates, Step.entryIn?, Step.boost?, Step.criteria?, List.findSome?_cons,
        addEntry, context]

end Criterion

namespace Criteria

variable {steps : List Step} {step : Step}

/-- The steps from the last one on that starts. -/
def sinceStart (steps : List Step) : List Step :=
  (steps.filter Step.isStart).getLast?.toList ++ steps.rtakeWhile fun step => !step.isStart

/-- The runs of steps of which criteria are made. -/
def runs (steps : List Step) : List (List Step) :=
  (sinceStart steps).splitBy fun _ next => next.isEdit

theorem sinceStart_concat_start (starts : step.isStart = true) :
    sinceStart (steps ++ [step]) = [step] := by
  simp [sinceStart, starts]

theorem sinceStart_concat (goes_on : step.isStart = false) :
    sinceStart (steps ++ [step]) = sinceStart steps ++ [step] := by
  simp [sinceStart, goes_on]

theorem runs_concat_start (starts : step.isStart = true) : runs (steps ++ [step]) = [[step]] := by
  rw [runs, sinceStart_concat_start starts]
  rfl

/-- A step that joins begins a run. -/
theorem runs_concat_opened (goes_on : step.isStart = false) (opens : step.isEdit = false) :
    runs (steps ++ [step]) = runs steps ++ [[step]] := by
  rw [runs, sinceStart_concat goes_on, List.splitBy_append_cons [] (by simp [opens])]
  rfl

/-- A step that edits goes to the last run, and if there is none it is a run of its own. -/
theorem runs_concat_edit (edits : step.isEdit = true) :
    runs (steps ++ [step]) = (runs steps).dropLast ++ [(runs steps).getLast?.getD [] ++ [step]] := by
  have goes_on : step.isStart = false := by cases step <;> first | rfl | cases edits
  rw [runs, sinceStart_concat goes_on]
  rcases List.eq_nil_or_concat (runs steps) with none | ⟨earlier, last, split⟩
  · have empty : sinceStart steps = [] := List.splitBy_eq_nil.mp none
    rw [none, empty]
    rfl
  · rw [List.concat_eq_append] at split
    rw [split, splitBy_concat split fun _ _ => edits]
    simp

/-! ## What a step changes -/

theorem extend_of_start {criterion : Criterion} (criteria : Criteria) (starts : step.isStart = true)
    (opens : step.opened? = some criterion) : criteria.extend step = ⟨[criterion]⟩ := by
  cases step <;> cases starts
  cases opens
  rfl

theorem extend_of_opened {criterion : Criterion} (criteria : Criteria)
    (goes_on : step.isStart = false) (opens : step.opened? = some criterion) :
    criteria.extend step = ⟨criteria.chain ++ [criterion]⟩ := by
  cases step <;> cases goes_on <;> cases opens <;> rfl

theorem extend_of_isEdit (criteria : Criteria) (edits : step.isEdit = true) :
    criteria.extend step = criteria.editLast step.edit := by
  cases step <;> first | rfl | cases edits

/-- A step that edits changes the last criterion, or makes one without a field. -/
theorem chain_extend_of_isEdit (criteria : Criteria) (edits : step.isEdit = true) :
    (∀ earlier last, criteria.chain = earlier ++ [last] →
      (criteria.extend step).chain = earlier ++ [step.edit last]) ∧
    (criteria.chain = [] → ∃ made, (criteria.extend step).chain = [made] ∧ made.field = none) := by
  obtain ⟨chain⟩ := criteria
  rw [extend_of_isEdit _ edits]
  constructor
  · rintro earlier last rfl
    rw [editLast_concat]
  · rintro rfl
    exact ⟨step.edit Criterion.blank, rfl, Step.field_edit step Criterion.blank⟩

/-- The criteria that steps build have one criterion for each run. -/
theorem chain_ofSteps (steps : List Step) :
    (ofSteps steps).chain = (runs steps).map Criterion.ofRun := by
  -- The induction takes steps off the end, where they change the criteria: a step makes criteria of
  -- its own, adds a run, or goes to the last run.
  induction steps using List.reverseRecOn with
  | nil => rfl
  | append_singleton steps step ih =>
    rw [ofSteps_concat]
    cases opens : step.opened? with
    | some criterion =>
      cases starts : step.isStart with
      | true =>
        rw [extend_of_start _ starts opens, runs_concat_start starts, List.map_singleton,
          Criterion.ofRun_of_opened opens]
      | false =>
        rw [extend_of_opened _ starts opens, runs_concat_opened starts (by simp [Step.isEdit, opens]),
          List.map_append, List.map_singleton, Criterion.ofRun_of_opened opens, ih]
    | none =>
      have edits : step.isEdit = true := by simp [Step.isEdit, opens]
      have blank : Criterion.blank = Criterion.ofRun [] := rfl
      rw [extend_of_isEdit _ edits, runs_concat_edit edits, editLast, ih, List.map_append,
        List.map_singleton, Criterion.ofRun_concat _ edits, List.map_dropLast, List.getLast?_map,
        blank, Option.getD_map]

end Criteria

end SearchCriteria
