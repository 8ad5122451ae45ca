import SearchCriteria.Criteria.Operand
import SearchCriteria.QueryString
import SearchCriteria.Settings

/-!
# Predicates on texts

The operand is a scalar and is taken as a text. Where it becomes part of a search text its reserved
characters are escaped, unless the caller asks for a search text as such.
-/

namespace SearchCriteria.Clause

/-- A search text with a wildcard in it. -/
def pattern (settings : Settings) (field query : String) : Leaf :=
  .queryString query [field] .or settings.analyzeWildcard

/-- The predicate of an operator on a text. -/
def textLeaf (settings : Settings) (field text : String) : Operator → Except Fault Leaf
  | .equals => .ok (.queryStringOn field (QueryString.escape text) .and)
  | .contains => .ok (pattern settings field ("*" ++ QueryString.escape text ++ "*"))
  | .startsWith => .ok (pattern settings field (QueryString.escape text ++ "*"))
  | .endsWith => .ok (pattern settings field ("*" ++ QueryString.escape text))
  | .expression => .ok (.queryStringOn field text .or)
  | .fuzzy => .ok (.fuzzy field (QueryString.escape text) settings.fuzziness)
  | .matchesAny => .ok (.matchText field text .or)
  | .matchesAll => .ok (.matchText field text .and)
  | .regexp => .ok (.regexp field text)
  | op => .error (.unsupportedOperator op.label .text)

def text (settings : Settings) (field : String) (op : Operator) (operand : Operand) :
    Except Fault QueryTree :=
  match operand.text? with
  | some text => (textLeaf settings field text op).map (.leaf · none)
  | none => .error (.invalidArgument field op.label (.notScalar operand.kind))

end SearchCriteria.Clause
