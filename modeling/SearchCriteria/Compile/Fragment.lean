import SearchCriteria.Connective
import SearchCriteria.QueryTree.Basic

/-!
# Fragments and how they are joined

Every criterion of a chain contributes at most one fragment, and so do all criteria nested in it.
Fragments of criteria joined with OR are alternatives, other fragments have to match or, if negated,
must not match. The fragment of the first criterion that has one is different, since there is
nothing before it to be joined to: it is an alternative if there are only alternatives besides, and
otherwise it has to match or must not match.
-/

namespace SearchCriteria

/-- A query with the way in which it is joined to the rest. -/
structure Fragment where
  query : QueryTree
  joiner : Connective
  negated : Bool

namespace Fragment

def isAlternative (f : Fragment) : Bool :=
  f.joiner == .or

def isExcluded (f : Fragment) : Bool :=
  f.joiner == .and && f.negated

def isRequired (f : Fragment) : Bool :=
  f.joiner == .and && !f.negated

/-- The boolean query of fragments that stand behind the first one, each in the clause it belongs
to. -/
def bucket (fragments : List Fragment) : BoolQuery :=
  { BoolQuery.none with
    must := (fragments.filter isRequired).map query
    should := (fragments.filter isAlternative).map query
    mustNot := (fragments.filter isExcluded).map query }

/-- Puts the first fragment in front of the clause it belongs to. -/
def attachFirst (first : Fragment) (rest : BoolQuery) : BoolQuery :=
  if !rest.should.isEmpty && rest.must.isEmpty && rest.mustNot.isEmpty then
    { rest with should := first.query :: rest.should }
  else if first.negated then { rest with mustNot := first.query :: rest.mustNot }
  else { rest with must := first.query :: rest.must }

/-- The query of a chain: of the fragments of its criteria, and of those of the criteria nested in
them. A chain without fragments asks for nothing. -/
def join (own nested : List Fragment) : Option QueryTree :=
  match own with
  | [] => if nested = [] then none else some (.bool (bucket nested))
  | first :: rest => some (.bool (first.attachFirst (bucket (rest ++ nested))))

end Fragment

end SearchCriteria
