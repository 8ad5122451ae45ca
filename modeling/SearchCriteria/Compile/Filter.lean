import SearchCriteria.GeoFilter

/-!
# Compiling filters

The filter of a chain is made of the filtering entries alone. What the entries of a criterion and
the criteria nested in it contribute is joined as the criterion says: with OR it is a group of
alternatives, negated it is excluded piece by piece, and otherwise each piece has to match.
-/

namespace SearchCriteria.Filter

/-- Moves a predicate to the nested documents that its field lives in. Filters do not score. -/
def place (field : ResolvedField) (predicate : GeoPredicate) : QueryTree :=
  match field.nestedPath with
  | some path => .nested path (.geo predicate) .none none
  | none => .geo predicate

/-- The predicates of the filtering entries of a criterion. -/
def predicates (resolve : Resolver) (field : Option Field) (entries : List Entry) :
    Except Fault (List QueryTree) :=
  match field, entries with
  | _, [] => .ok []
  | none, entry :: _ => .error (.missingField entry.operator.label)
  | some field, entries =>
    let resolved := resolve field
    entries.mapM fun entry => (GeoFilter.build resolved.name entry).map (place resolved)

/-- What a criterion adds to the filter of its chain. -/
def items (joiner : Connective) (negated : Bool) (pieces : List QueryTree) : List QueryTree :=
  match joiner with
  | .or => if pieces.isEmpty then [] else [.bool { BoolQuery.none with should := pieces }]
  | .and => if negated then pieces.map .not else pieces

/-- A single item stands for itself, several have to match together. -/
def together : List QueryTree → Option QueryTree
  | [] => none
  | [item] => some item
  | items => some (.bool { BoolQuery.none with must := items })

mutual

/-- The filter of criteria that are nested so many levels deep. -/
def ofCriteria (resolve : Resolver) (maxDepth depth : Nat) :
    Criteria → Except Fault (Option QueryTree)
  | ⟨chain⟩ =>
    if maxDepth < depth then .error (.criteriaTooDeep maxDepth)
    else (ofChain resolve maxDepth depth chain).map together

def ofChain (resolve : Resolver) (maxDepth depth : Nat) :
    List Criterion → Except Fault (List QueryTree)
  | [] => .ok []
  | ⟨field, joiner, negated, _, filterEntries, _, nested⟩ :: rest => do
    let own ← predicates resolve field filterEntries
    let below ← ofNested resolve maxDepth depth nested
    let others ← ofChain resolve maxDepth depth rest
    return items joiner negated (own ++ below) ++ others

def ofNested (resolve : Resolver) (maxDepth depth : Nat) :
    List Criteria → Except Fault (List QueryTree)
  | [] => .ok []
  | criteria :: rest => do
    let query ← ofCriteria resolve maxDepth (depth + 1) criteria
    let others ← ofNested resolve maxDepth depth rest
    return query.toList ++ others

end

/-- Attaches a filter to a query. If there is no query, the filter needs one that matches
everything. Alternatives alone would become optional beside a filter, so one of them is asked
for. -/
def attach (query filter : Option QueryTree) : Option QueryTree :=
  match filter with
  | none => query
  | some filter =>
    let base := match query with
      | some (.bool query) => query
      | some query => { BoolQuery.none with must := [query] }
      | none => { BoolQuery.none with must := [.matchAll] }
    let base := if base.must.isEmpty && base.mustNot.isEmpty && !base.should.isEmpty then
        { base with minimumShouldMatch := some 1 }
      else base
    some (.bool { base with filter := base.filter ++ [filter] })

end SearchCriteria.Filter
