import SearchCriteria.Criteria.Operand

/-!
# Ranges

A bound is a scalar and keeps its type. In a pair of bounds null stands for no bound.
-/

namespace SearchCriteria.Clause

def bound (field : String) (op : Operator) (operand : Operand) : Except Fault Json :=
  match operand.scalarJson? with
  | some value => .ok value
  | none => .error (.invalidArgument field op.label (.notBound operand.kind))

def optionalBound (field : String) (op : Operator) : Operand → Except Fault (Option Json)
  | .null => .ok none
  | operand => (bound field op operand).map some

/-- The bounds that an operator and its operand set. -/
def bounds (field : String) (op : Operator) (operand : Operand) : Except Fault Bounds :=
  match op with
  | .less => do return { Bounds.unbounded with lt := ← bound field op operand }
  | .lessEqual => do return { Bounds.unbounded with lte := ← bound field op operand }
  | .greater => do return { Bounds.unbounded with gt := ← bound field op operand }
  | .greaterEqual => do return { Bounds.unbounded with gte := ← bound field op operand }
  | .between =>
    match operand with
    | .sequence [lower, upper] => do
      let gte ← optionalBound field op lower
      let lte ← optionalBound field op upper
      return { Bounds.unbounded with gte, lte }
    | _ => .error (.invalidArgument field op.label .notPair)
  | _ => .error (.unsupportedOperator op.label .range)

def range (field : String) (op : Operator) (operand : Operand) : Except Fault QueryTree :=
  (bounds field op operand).map fun found => .leaf (.range field found) none

end SearchCriteria.Clause
