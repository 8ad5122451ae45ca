import SearchCriteria.Named

/-!
# Documents related to a document

What a search does with the documents that belong to a document: its nested documents, its children
or its parent.
-/

namespace SearchCriteria

/-- What becomes of the scores of several related documents. -/
inductive ScoreMode where
  | none
  | avg
  | max
  | min
  | sum
deriving DecidableEq, Repr

/-- Which of the related documents are returned, and under what name. -/
structure InnerHits where
  name : Option String
  start : Option Nat
  size : Option Nat
deriving DecidableEq, Repr

namespace ScoreMode

def label : ScoreMode → String
  | .none => "none"
  | .avg => "avg"
  | .max => "max"
  | .min => "min"
  | .sum => "sum"

instance : Named ScoreMode where
  all := [.none, .avg, .max, .min, .sum]
  name := label
  find?_name a := by cases a <;> rfl

end ScoreMode

end SearchCriteria
