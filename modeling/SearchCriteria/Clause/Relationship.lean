import SearchCriteria.Criteria.Operand
import SearchCriteria.Settings

/-!
# Children and parents

The embedded query is compiled beforehand, and a fault in it is a fault here. If it asks for
nothing, every child or parent of the type will do.
-/

namespace SearchCriteria.Clause

/-- The predicate on the children or the parent of a document, for the compiled query of the
operand. -/
def relationship (settings : Settings) (field : String) (op : Operator) (operand : Operand)
    (embedded : Except Fault (Option QueryTree)) : Except Fault QueryTree :=
  match operand with
  | .hasChild type _ scoreMode innerHits => do
    let query := (← embedded).getD .matchAll
    return .hasChild type query (scoreMode.getD settings.childScoreMode) innerHits none
  | .hasParent type _ score innerHits => do
    let query := (← embedded).getD .matchAll
    return .hasParent type query score innerHits none
  | _ => .error (.invalidArgument field op.label (.notRelated operand.kind))

end SearchCriteria.Clause
