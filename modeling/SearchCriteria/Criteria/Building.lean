import SearchCriteria.Criteria.Basic

/-!
# Building criteria step by step

Criteria are written as a list of steps. A step either starts or joins a criterion, or edits the
last one; on an empty chain the edit makes a criterion without a field first.
-/

namespace SearchCriteria

/-- A step in the building of criteria. -/
inductive Step where
  /-- Starts over, with a criterion on a field. -/
  | start (field : Field)
  | join (joiner : Connective) (field : Field)
  /-- Joins criteria as a whole. -/
  | joinCriteria (joiner : Connective) (criteria : Criteria)
  /-- Nests criteria in the last criterion. -/
  | nest (criteria : Criteria)
  | negate
  | boost (boost : Double)
  | entry (operator : Operator) (operand : Operand)

namespace Step

/-- Asks for a value between two others, which may be null. -/
def between (lower upper : Operand) : Step :=
  .entry .between (.sequence [lower, upper])

def within (centre radius : Operand) : Step :=
  .entry .within (.sequence [centre, radius])

/-- Asks for a point in the box between two corners. -/
def corners (topLeft bottomRight : Operand) : Step :=
  .entry .boundingBox (.sequence [topLeft, bottomRight])

end Step

namespace Criteria

/-- Edits the last criterion, which is made first if there is none. -/
def editLast (edit : Criterion → Criterion) (c : Criteria) : Criteria :=
  ⟨c.chain.dropLast ++ [edit (c.chain.getLast?.getD Criterion.blank)]⟩

def append (c : Criteria) (criterion : Criterion) : Criteria :=
  ⟨c.chain ++ [criterion]⟩

/-- Takes one step. -/
def extend (c : Criteria) : Step → Criteria
  | .start field => ⟨[Criterion.on field]⟩
  | .join joiner field => c.append { Criterion.on field with joiner }
  | .joinCriteria joiner criteria =>
    c.append { Criterion.blank with joiner, nested := [criteria] }
  | .nest criteria => c.editLast fun last => { last with nested := last.nested ++ [criteria] }
  | .negate => c.editLast fun last => { last with negated := true }
  | .boost boost => c.editLast (·.setBoost boost)
  | .entry operator operand => c.editLast (·.addEntry ⟨operator, operand⟩)

/-- The criteria that a list of steps builds. -/
def ofSteps (steps : List Step) : Criteria :=
  steps.foldl extend empty

@[simp] theorem ofSteps_nil : ofSteps [] = empty := rfl

theorem ofSteps_concat (steps : List Step) (step : Step) :
    ofSteps (steps ++ [step]) = (ofSteps steps).extend step := by
  simp [ofSteps]

/-- Only the last criterion of a chain is edited. -/
@[simp] theorem editLast_concat (edit : Criterion → Criterion) (earlier : List Criterion)
    (last : Criterion) : editLast edit ⟨earlier ++ [last]⟩ = ⟨earlier ++ [edit last]⟩ := by
  simp [editLast]

@[simp] theorem editLast_empty (edit : Criterion → Criterion) :
    editLast edit empty = ⟨[edit Criterion.blank]⟩ := rfl

end Criteria

end SearchCriteria
