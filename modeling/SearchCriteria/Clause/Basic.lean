import SearchCriteria.Clause.Membership
import SearchCriteria.Clause.Presence
import SearchCriteria.Clause.Range
import SearchCriteria.Clause.Relationship
import SearchCriteria.Clause.Text

/-!
# Clauses

The predicate of one scoring entry on a resolved field. First the kind of the operand is checked,
then the predicate is built by the family of the operator.
-/

namespace SearchCriteria

/-- The families of operators that score. -/
inductive ClauseFamily where
  | presence
  | text
  | range
  | membership
  | relationship
deriving DecidableEq, Repr

/-- The family of an operator; those that only filter have none. -/
def Operator.family? : Operator → Option ClauseFamily
  | .present | .empty | .notEmpty => some .presence
  | .equals | .contains | .startsWith | .endsWith | .expression | .fuzzy | .matchesAny
  | .matchesAll | .regexp => some .text
  | .less | .lessEqual | .greater | .greaterEqual | .between => some .range
  | .isIn | .notIn => some .membership
  | .hasChild | .hasParent => some .relationship
  | .within | .boundingBox | .shapeIntersects | .shapeDisjoint | .shapeWithin | .shapeContains =>
    none

/-- The operators without a family are those that only filter. -/
theorem Operator.family?_eq_none_iff (op : Operator) :
    op.family? = none ↔ op.context = .filter := by
  cases op <;> decide

namespace Clause

/-- Builds the predicate of an entry as one of a family, whatever the operator. -/
def buildAs (family : ClauseFamily) (settings : Settings) (field : ResolvedField) (entry : Entry)
    (embedded : Except Fault (Option QueryTree)) : Except Fault QueryTree :=
  match family with
  | .presence => presence field.name entry.operator
  | .text => text settings field.name entry.operator entry.operand
  | .range => range field.name entry.operator entry.operand
  | .membership => membership field entry.operator entry.operand
  | .relationship => relationship settings field.name entry.operator entry.operand embedded

/-- Builds the predicate of an entry, given what the query that is embedded in it compiles to. -/
def build (settings : Settings) (field : ResolvedField) (entry : Entry)
    (embedded : Except Fault (Option QueryTree)) : Except Fault QueryTree := do
  entry.operator.check field.name entry.operand.kind entry.operand.count
  match entry.operator.family? with
  | some family => buildAs family settings field entry embedded
  | none => .error (.unsupportedOperator entry.operator.label .query)

end Clause

/-- The query that an operand embeds. -/
def Operand.embedded? : Operand → Option Query
  | .hasChild _ query _ _ => some query
  | .hasParent _ query _ _ => some query
  | _ => none

/-- What the query that an operand embeds compiles to; without such a query there is nothing. -/
def Operand.compileEmbedded (operand : Operand)
    (compile : Query → Except Fault (Option QueryTree)) : Except Fault (Option QueryTree) :=
  match operand.embedded? with
  | some query => compile query
  | none => .ok none

end SearchCriteria
