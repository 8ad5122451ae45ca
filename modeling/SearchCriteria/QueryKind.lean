import SearchCriteria.Named

/-!
# Kinds of queries

The forms in which a query can be handed over.
-/

namespace SearchCriteria

inductive QueryKind where
  | criteria
  | text
  | native
  | wrapped
  | template
deriving DecidableEq, Repr

namespace QueryKind

def label : QueryKind → String
  | .criteria => "criteria"
  | .text => "text"
  | .native => "native"
  | .wrapped => "wrapped"
  | .template => "template"

instance : Named QueryKind where
  all := [.criteria, .text, .native, .wrapped, .template]
  name := label
  find?_name a := by cases a <;> rfl

end QueryKind

end SearchCriteria
