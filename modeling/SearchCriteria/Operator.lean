import SearchCriteria.Fault
import SearchCriteria.Text.LetterCase

/-!
# Operators

The predicates that can be asked of a field. An operator either scores or only filters, takes a
number of values and accepts certain kinds of operands. All of this is said here, and what builds
predicates only looks it up.
-/

namespace SearchCriteria

inductive Operator where
  | equals
  | contains
  | startsWith
  | endsWith
  /-- A search text, taken as it is. -/
  | expression
  | between
  | fuzzy
  /-- Some term of a text. -/
  | matchesAny
  /-- Every term of a text. -/
  | matchesAll
  | isIn
  | notIn
  | less
  | lessEqual
  | greater
  | greaterEqual
  | present
  /-- The field is present and holds nothing. -/
  | empty
  | notEmpty
  | regexp
  | hasChild
  | hasParent
  /-- Within a distance of a point. -/
  | within
  | boundingBox
  | shapeIntersects
  | shapeDisjoint
  | shapeWithin
  | shapeContains
deriving DecidableEq, Repr

/-- Where a predicate is evaluated: where it scores, or where it only filters. -/
inductive OperatorContext where
  | query
  | filter
deriving DecidableEq, Repr

/-- How many values an operator takes. -/
structure Arity where
  least : Nat
  most : Nat
deriving DecidableEq, Repr

namespace OperatorContext

def label : OperatorContext → String
  | .query => "query"
  | .filter => "filter"

instance : Named OperatorContext where
  all := [.query, .filter]
  name := label
  find?_name a := by cases a <;> rfl

end OperatorContext

namespace Arity

/-- The greatest count of 64 bits. -/
def unbounded : Nat := UInt64.size - 1

def admits (a : Arity) (count : Nat) : Bool :=
  a.least ≤ count && count ≤ a.most

end Arity

namespace Operator

def label : Operator → String
  | .equals => "EQUALS"
  | .contains => "CONTAINS"
  | .startsWith => "STARTS_WITH"
  | .endsWith => "ENDS_WITH"
  | .expression => "EXPRESSION"
  | .between => "BETWEEN"
  | .fuzzy => "FUZZY"
  | .matchesAny => "MATCHES"
  | .matchesAll => "MATCHES_ALL"
  | .isIn => "IN"
  | .notIn => "NOT_IN"
  | .less => "LESS"
  | .lessEqual => "LESS_EQUAL"
  | .greater => "GREATER"
  | .greaterEqual => "GREATER_EQUAL"
  | .present => "EXISTS"
  | .empty => "EMPTY"
  | .notEmpty => "NOT_EMPTY"
  | .regexp => "REGEXP"
  | .hasChild => "HAS_CHILD"
  | .hasParent => "HAS_PARENT"
  | .within => "WITHIN"
  | .boundingBox => "BBOX"
  | .shapeIntersects => "GEO_INTERSECTS"
  | .shapeDisjoint => "GEO_IS_DISJOINT"
  | .shapeWithin => "GEO_WITHIN"
  | .shapeContains => "GEO_CONTAINS"

instance : Named Operator where
  all := [.equals, .contains, .startsWith, .endsWith, .expression, .between, .fuzzy, .matchesAny,
    .matchesAll, .isIn, .notIn, .less, .lessEqual, .greater, .greaterEqual, .present, .empty,
    .notEmpty, .regexp, .hasChild, .hasParent, .within, .boundingBox, .shapeIntersects,
    .shapeDisjoint, .shapeWithin, .shapeContains]
  name := label
  find?_name a := by cases a <;> rfl

/-- Reads the name of an operator in any letter case. -/
def read (text : String) : Except Fault Operator :=
  match Named.ofName? (Text.upper text) with
  | some op => .ok op
  | none => .error (.unsupportedOperator text .catalog)

def context : Operator → OperatorContext
  | .within | .boundingBox | .shapeIntersects | .shapeDisjoint | .shapeWithin | .shapeContains =>
    .filter
  | _ => .query

def isFilter (op : Operator) : Bool :=
  op.context == .filter

def arity : Operator → Arity
  | .present | .empty | .notEmpty => ⟨0, 0⟩
  | .between | .within => ⟨2, 2⟩
  | .isIn | .notIn => ⟨1, Arity.unbounded⟩
  | .boundingBox => ⟨1, 2⟩
  | _ => ⟨1, 1⟩

def accepts : Operator → List OperandKind
  | .present | .empty | .notEmpty => [.null]
  | .isIn | .notIn | .between | .within => [.sequence]
  | .hasChild => [.hasChild]
  | .hasParent => [.hasParent]
  | .boundingBox => [.geoBox, .sequence]
  | .shapeIntersects | .shapeDisjoint | .shapeWithin | .shapeContains => [.geometry]
  | _ => [.scalar]

/-- Checks the kind of an operand and the number of values in it. What the values are is looked at
by what builds the predicate. -/
def check (op : Operator) (field : String) (kind : OperandKind) (count : Nat) :
    Except Fault Unit :=
  if kind ∉ op.accepts then .error (.invalidArgument field op.label (.wrongKind op.accepts kind))
  else if op.arity.admits count then .ok ()
  else
    .error (.invalidArgument field op.label (.wrongCount op.arity.least op.arity.most count))

end Operator

end SearchCriteria
