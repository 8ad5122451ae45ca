import SearchCriteria.Criteria.Operand
import SearchCriteria.QueryString

/-!
# Membership in a set of terms

On a keyword field the terms are looked up as they are, null among them. On other fields they become
a search text of quoted terms, any of which may match, and null terms are dropped.
-/

namespace SearchCriteria.Clause

/-- The term that an operand stands for; null is a term of its own. The names of field and operator
only label the fault. -/
def term (field op : String) : Operand → Except Fault (Option String)
  | .null => .ok none
  | operand =>
    match operand.text? with
    | some text => .ok (some text)
    | none => .error (.invalidArgument field op (.notTerm operand.kind))

def terms (field op : String) (items : List Operand) : Except Fault (List (Option String)) :=
  items.mapM (term field op)

/-- Whether a document has one of the terms. -/
def exactMembership (field : String) (values : List (Option String)) :
    Operator → Except Fault QueryTree
  | .isIn => .ok (.bool { BoolQuery.none with must := [.leaf (.terms field values) none] })
  | .notIn => .ok (.bool { BoolQuery.none with mustNot := [.leaf (.terms field values) none] })
  | op => .error (.unsupportedOperator op.label .membership)

/-- Quoted terms with a space between them. -/
def quotedTerms (values : List String) : String :=
  " ".intercalate (values.map QueryString.quote)

def textMembership (field : String) (values : List String) (op : Operator) :
    Except Fault QueryTree :=
  if values = [] then .error (.invalidArgument field op.label .noTerm)
  else match op with
    | .isIn => .ok (.leaf (.queryStringOn field (quotedTerms values) .or) none)
    | .notIn =>
      .ok (.leaf (.queryStringOn field ("NOT(" ++ quotedTerms values ++ ")") .or) none)
    | _ => .error (.unsupportedOperator op.label .membership)

def membership (field : ResolvedField) (op : Operator) (operand : Operand) :
    Except Fault QueryTree :=
  match operand.items? with
  | none => .error (.invalidArgument field.name op.label (.notSequence operand.kind))
  | some items => do
    let values ← terms field.name op.label items
    if field.isKeyword then exactMembership field.name values op
    else textMembership field.name (values.filterMap id) op

end SearchCriteria.Clause
