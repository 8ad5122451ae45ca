import SearchCriteria.Named

/-!
# Connectives

How one thing is joined to another: a criterion to the chain before it, or the terms of a text to
each other.
-/

namespace SearchCriteria

inductive Connective where
  | and
  | or
deriving DecidableEq, Repr

namespace Connective

def label : Connective → String
  | .and => "and"
  | .or => "or"

instance : Named Connective where
  all := [.and, .or]
  name := label
  find?_name a := by cases a <;> rfl

end Connective

end SearchCriteria
