import SearchCriteria.Proofs.Construction
import SearchCriteria.Proofs.Nulls

/-!
# The parts of a tree and what joins them

A tree is listed part by part, and for each part it is said which moves to nested documents stand
above it. What is asked of children or parents is a query of its own and is not looked into.

Flags of criteria and nested criteria only ever add boolean queries, and these have no boost. So a
tree is opened: boolean queries without a boost give way to their clauses, until what the entries of
the criteria are made of is left. A list of parts that leaves such boolean queries out is the same
before and after.
-/

namespace SearchCriteria

/-- The moves to nested documents above a part of a tree, the outermost first: the path of each, and
what becomes of the scores. -/
abbrev Scope := List (String × ScoreMode)

mutual

/-- The parts of a tree, the tree itself first, each with the moves above it. -/
def QueryTree.parts (scope : Scope) : QueryTree → List (Scope × QueryTree)
  | .bool query => (scope, .bool query) :: query.parts scope
  | .nested path query scoreMode boost =>
    (scope, .nested path query scoreMode boost) :: query.parts (scope ++ [(path, scoreMode)])
  | .leaf predicate boost => [(scope, .leaf predicate boost)]
  | .geo predicate => [(scope, .geo predicate)]
  | .wrapper source => [(scope, .wrapper source)]
  | .hasChild type query scoreMode innerHits boost =>
    [(scope, .hasChild type query scoreMode innerHits boost)]
  | .hasParent type query score innerHits boost =>
    [(scope, .hasParent type query score innerHits boost)]

/-- The parts of the clauses of a boolean query. -/
def BoolQuery.parts (scope : Scope) : BoolQuery → List (Scope × QueryTree)
  | ⟨must, should, mustNot, filter, _, _⟩ =>
    QueryTree.partsOf scope must ++ QueryTree.partsOf scope should ++
      QueryTree.partsOf scope mustNot ++ QueryTree.partsOf scope filter

def QueryTree.partsOf (scope : Scope) : List QueryTree → List (Scope × QueryTree)
  | [] => []
  | tree :: rest => tree.parts scope ++ QueryTree.partsOf scope rest

end

namespace QueryTree

theorem partsOf_eq_flatMap (scope : Scope) (trees : List QueryTree) :
    partsOf scope trees = trees.flatMap (parts scope) := by
  induction trees with
  | nil => rw [partsOf, List.flatMap_nil]
  | cons tree rest ih => rw [partsOf, ih, List.flatMap_cons]

theorem parts_bool (scope : Scope) (q : BoolQuery) :
    (bool q).parts scope = (scope, bool q) :: q.clauses.flatMap (parts scope) := by
  obtain ⟨must, should, mustNot, filter, minimum, boost⟩ := q
  rw [parts, BoolQuery.parts, BoolQuery.clauses]
  simp only [partsOf_eq_flatMap, List.flatMap_append]

theorem parts_nested (scope : Scope) (path : String) (query : QueryTree) (scoreMode : ScoreMode)
    (boost : Option Double) :
    (nested path query scoreMode boost).parts scope =
      (scope, nested path query scoreMode boost) :: query.parts (scope ++ [(path, scoreMode)]) := by
  rw [parts]

@[simp] theorem parts_leaf (scope : Scope) (predicate : Leaf) (boost : Option Double) :
    (leaf predicate boost).parts scope = [(scope, leaf predicate boost)] := by
  rw [parts]

@[simp] theorem parts_geo (scope : Scope) (predicate : GeoPredicate) :
    (geo predicate).parts scope = [(scope, geo predicate)] := by
  rw [parts]

/-- A relationship has no part but itself. -/
theorem parts_of_asked {tree query : QueryTree} (scope : Scope) (asks : tree.asked? = some query) :
    tree.parts scope = [(scope, tree)] := by
  cases tree with
  | hasChild => rw [parts]
  | hasParent => rw [parts]
  | leaf | geo | wrapper | bool | nested => cases asks

/-- Further moves above a tree stand above all of its parts. -/
theorem parts_eq_map (tree : QueryTree) (scope : Scope) :
    tree.parts scope = (tree.parts []).map fun part => (scope ++ part.1, part.2) := by
  induction tree using induction_on_parts generalizing scope with
  | leaf predicate boost => simp
  | geo predicate => simp
  | wrapper source => simp [parts]
  | hasChild => simp [parts]
  | hasParent => simp [parts]
  | nested path query scoreMode boost ih =>
    rw [parts_nested, parts_nested, ih (scope ++ _), ih ([] ++ _)]
    simp [Function.comp_def]
  | bool q ih =>
    have each : q.clauses.flatMap (parts scope) =
        q.clauses.flatMap fun clause =>
          (clause.parts []).map fun part => (scope ++ part.1, part.2) := by
      apply List.flatMap_congr
      intro clause mem
      exact ih clause mem scope
    rw [parts_bool, parts_bool, each, List.map_cons, List.map_flatMap, List.append_nil]

/-- The parts that carry a boost. -/
def boostedParts (tree : QueryTree) : List QueryTree :=
  ((tree.parts []).map Prod.snd).filter fun part => part.boost?.isSome

/-- The path of a move to nested documents. -/
def path? : QueryTree → Option String
  | .nested path _ _ _ => some path
  | _ => none

/-- Whether a tree is a predicate or a relationship. -/
def isPredicate : QueryTree → Bool
  | .bool _ => false
  | .nested .. => false
  | _ => true

/-- The moves to nested documents, each with the moves above it. -/
def moves (tree : QueryTree) : List (Scope × QueryTree) :=
  (tree.parts []).filter fun part => part.2.path?.isSome

/-- The predicates and relationships, each with the moves above it. -/
def predicates (tree : QueryTree) : List (Scope × QueryTree) :=
  (tree.parts []).filter fun part => part.2.isPredicate

/-! ## Boolean queries that only join -/

/-- Trees are opened to units: one after another, boolean queries without a boost give way to their
clauses. The order does not matter, but nothing is lost or doubled. -/
inductive Opens : List QueryTree → List QueryTree → Prop where
  | done {trees units : List QueryTree} (same : trees.Perm units) : Opens trees units
  | step {trees rest units : List QueryTree} {q : BoolQuery} (found : trees.Perm (.bool q :: rest))
      (unboosted : q.boost = none) (later : Opens (q.clauses ++ rest) units) : Opens trees units

namespace Opens

variable {trees trees' units units' : List QueryTree}

theorem perm_left (h : Opens trees units) (same : trees'.Perm trees) : Opens trees' units := by
  cases h with
  | done same' => exact .done (same.trans same')
  | step found unboosted later => exact .step (same.trans found) unboosted later

theorem append_right (h : Opens trees units) (more : List QueryTree) :
    Opens (trees ++ more) (units ++ more) := by
  induction h with
  | done same => exact .done (same.append_right more)
  | step found unboosted _ ih =>
    rw [List.append_assoc] at ih
    exact .step (found.append_right more) unboosted ih

theorem trans (first : Opens trees units) (second : Opens units units') : Opens trees units' := by
  induction first with
  | done same => exact second.perm_left same
  | step found unboosted _ ih => exact .step found unboosted (ih second)

theorem append (first : Opens trees units) (second : Opens trees' units') :
    Opens (trees ++ trees') (units ++ units') := by
  apply (first.append_right trees').trans
  apply ((second.append_right units).perm_left List.perm_append_comm).trans
  exact .done List.perm_append_comm

/-- A boolean query without a boost is opened as its clauses are. -/
theorem bool {q : BoolQuery} (unboosted : q.boost = none) (h : Opens q.clauses units) :
    Opens [.bool q] units := by
  apply Opens.step (List.Perm.refl _) unboosted
  rw [List.append_nil]
  exact h

theorem not (tree : QueryTree) : Opens [tree.not] [tree] :=
  .bool rfl (.done (List.Perm.refl _))

/-- A listing that sees through boolean queries without a boost lists the same before and after. -/
theorem flatMap_perm {α : Type} {list : QueryTree → List α}
    (through : ∀ q : BoolQuery, q.boost = none → list (.bool q) = q.clauses.flatMap list)
    (h : Opens trees units) : (trees.flatMap list).Perm (units.flatMap list) := by
  induction h with
  | done same => exact same.flatMap_right list
  | step found unboosted _ ih =>
    rw [List.flatMap_append, ← through _ unboosted, ← List.flatMap_cons] at ih
    exact (found.flatMap_right list).trans ih

end Opens

theorem moves_bool (q : BoolQuery) : (bool q).moves = q.clauses.flatMap moves := by
  rw [moves, parts_bool, List.filter_cons_of_neg (by simp [path?]), List.filter_flatMap]
  rfl

theorem predicates_bool (q : BoolQuery) : (bool q).predicates = q.clauses.flatMap predicates := by
  rw [predicates, parts_bool, List.filter_cons_of_neg (by simp [isPredicate]), List.filter_flatMap]
  rfl

end QueryTree

end SearchCriteria
