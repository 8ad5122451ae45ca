import SearchCriteria.Clause.Basic
import SearchCriteria.Compile.Filter
import SearchCriteria.Compile.Fragment
import SearchCriteria.Criteria.Renaming

/-!
# Compiling queries

A compiler knows how fields are resolved, the settings, and which queries may be embedded in an
operand. Criteria become a query tree that scores, to which the filter of the criteria is attached;
criteria nested in criteria contribute only what scores, because their filters are part of the
filter of the whole. A query that is embedded in an operand is compiled on its own, filter included.

All functions below carry the depth at which they are. It grows by one with each level of nested
criteria and with each embedded query, and only what lies deeper than the settings allow is refused.
-/

namespace SearchCriteria

/-- Which queries may be embedded in the operands of operators. -/
inductive Embedding where
  | criteriaOnly
  | everyQuery
deriving DecidableEq, Repr

structure Compiler where
  resolve : Resolver
  settings : Settings
  embedding : Embedding

namespace Compiler

/-- A compiler for which settings have been checked and every query may be embedded. -/
def checked (resolve : Resolver) (settings : Settings) : Except Fault Compiler := do
  return { resolve, settings := ← settings.check, embedding := .everyQuery }

/-- The fragment of a criterion before it is joined: several predicates have to match together, and
the boost belongs to all of them. Predicates on nested documents are moved there. -/
def wrap (settings : Settings) (field : ResolvedField) (boost : Option Double)
    (leaves : List QueryTree) : QueryTree :=
  let group := match leaves with
    | [leaf] => leaf.withBoost boost
    | leaves => .bool { BoolQuery.none with must := leaves, boost }
  match field.nestedPath with
  | some path => .nested path group settings.nestedScoreMode none
  | none => group

/-- The fragment of a criterion. A negated alternative is negated at once, since alternatives are
not negated where they are joined. -/
def fragment (settings : Settings) (field : ResolvedField) (joiner : Connective) (negated : Bool)
    (boost : Option Double) (leaves : List QueryTree) : Fragment :=
  let query := wrap settings field boost leaves
  { query := if joiner == .or && negated then query.not else query, joiner, negated }

/-- Refuses a query that is embedded too deep, or is of a kind that may not be embedded. -/
def allowAt (c : Compiler) (depth : Nat) (kind : QueryKind) : Except Fault Unit :=
  if c.settings.maxDepth < depth then .error (.queriesTooDeep c.settings.maxDepth)
  else if c.embedding = .criteriaOnly ∧ kind ≠ .criteria then .error (.unsupportedQuery kind)
  else .ok ()

mutual

/-- The scoring tree of criteria. -/
def criteriaAt (c : Compiler) (depth : Nat) : Criteria → Except Fault (Option QueryTree)
  | ⟨chain⟩ =>
    if c.settings.maxDepth < depth then .error (.criteriaTooDeep c.settings.maxDepth)
    else do
      let own ← fragmentsAt c depth chain
      let nested ← nestedAt c depth chain
      return Fragment.join own nested

/-- The fragments of the criteria of a chain. -/
def fragmentsAt (c : Compiler) (depth : Nat) : List Criterion → Except Fault (List Fragment)
  | [] => .ok []
  | criterion :: rest => do
    let own ← fragmentAt c depth criterion
    let others ← fragmentsAt c depth rest
    return own.toList ++ others

/-- The fragment of a criterion. One without scoring entries has none, and one without a field must
not have entries at all. -/
def fragmentAt (c : Compiler) (depth : Nat) : Criterion → Except Fault (Option Fragment)
  | ⟨none, _, _, queryEntries, filterEntries, _, _⟩ =>
    match queryEntries ++ filterEntries with
    | [] => .ok none
    | entry :: _ => .error (.missingField entry.operator.label)
  | ⟨some _, _, _, [], _, _, _⟩ => .ok none
  | ⟨some field, joiner, negated, entries, _, boost, _⟩ => do
    let leaves ← leavesAt c depth (c.resolve field) entries
    return some (fragment c.settings (c.resolve field) joiner negated boost leaves)

/-- The predicates of scoring entries. -/
def leavesAt (c : Compiler) (depth : Nat) (field : ResolvedField) :
    List Entry → Except Fault (List QueryTree)
  | [] => .ok []
  | ⟨operator, operand⟩ :: rest => do
    let leaf ← Clause.build c.settings field ⟨operator, operand⟩ (embeddedAt c (depth + 1) operand)
    let others ← leavesAt c depth field rest
    return leaf :: others

/-- What the query embedded in an operand compiles to. -/
def embeddedAt (c : Compiler) (depth : Nat) : Operand → Except Fault (Option QueryTree)
  | .hasChild _ query _ _ => do
    c.allowAt depth query.kind
    queryAt c depth query
  | .hasParent _ query _ _ => do
    c.allowAt depth query.kind
    queryAt c depth query
  | _ => .ok none

/-- The fragments of the criteria that are nested in the criteria of a chain. -/
def nestedAt (c : Compiler) (depth : Nat) : List Criterion → Except Fault (List Fragment)
  | [] => .ok []
  | ⟨_, joiner, negated, _, _, _, nested⟩ :: rest => do
    let own ← nestedListAt c depth nested
    let others ← nestedAt c depth rest
    return own.map (fun query => { query, joiner, negated }) ++ others

def nestedListAt (c : Compiler) (depth : Nat) : List Criteria → Except Fault (List QueryTree)
  | [] => .ok []
  | criteria :: rest => do
    let query ← criteriaAt c (depth + 1) criteria
    let others ← nestedListAt c depth rest
    return query.toList ++ others

/-- What a query compiles to. A template is known to the search engine alone. -/
def queryAt (c : Compiler) (depth : Nat) : Query → Except Fault (Option QueryTree)
  | .criteria criteria => do
    let query ← criteriaAt c depth criteria
    let filter ← Filter.ofCriteria c.resolve c.settings.maxDepth 0 criteria
    return Filter.attach query filter
  | .text source => .ok (some (.wrapper source))
  | .native tree => .ok (some tree)
  | .wrapped query => queryAt c depth query
  | .template _ _ => .error (.unsupportedQuery .template)

end

/-- The scoring tree of criteria, without their filter. -/
def compile (c : Compiler) (criteria : Criteria) : Except Fault (Option QueryTree) :=
  c.criteriaAt 0 criteria

/-- The filter of criteria alone. -/
def compileFilter (c : Compiler) (criteria : Criteria) : Except Fault (Option QueryTree) :=
  Filter.ofCriteria c.resolve c.settings.maxDepth 0 criteria

/-- The scoring tree of criteria with their filter attached. -/
def build (c : Compiler) (criteria : Criteria) : Except Fault (Option QueryTree) :=
  c.queryAt 0 (.criteria criteria)

/-- What a query compiles to after it has been normalized. -/
def dispatch (c : Compiler) (query : Query) (normalize : Query → Query) :
    Except Fault (Option QueryTree) :=
  c.queryAt 0 (normalize query)

end Compiler

end SearchCriteria
