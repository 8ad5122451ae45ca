import SearchCriteria.Criteria.Basic

/-!
# Renaming fields

A table says under which names the fields of criteria are known elsewhere. Every field that the
compilation of a query comes upon is renamed once; a name that is not in the table stays.
-/

namespace SearchCriteria

def Field.rename (table : List (String × String)) (f : Field) : Field :=
  { f with name := (Table.find? f.name table).getD f.name }

mutual

/-- Renames the fields of a query. Queries that are not criteria have none. -/
def Query.rename (table : List (String × String)) : Query → Query
  | .criteria criteria => .criteria (criteria.rename table)
  | .wrapped query => .wrapped (query.rename table)
  | .text source => .text source
  | .native tree => .native tree
  | .template id params => .template id params

def Criteria.rename (table : List (String × String)) : Criteria → Criteria
  | ⟨chain⟩ => ⟨Criteria.renameChain table chain⟩

def Criteria.renameChain (table : List (String × String)) : List Criterion → List Criterion
  | [] => []
  | ⟨field, joiner, negated, queryEntries, filterEntries, boost, nested⟩ :: rest =>
    ⟨field.map (Field.rename table), joiner, negated, Criteria.renameEntries table queryEntries,
      filterEntries, boost, Criteria.renameNested table nested⟩
    :: Criteria.renameChain table rest

/-- Renames the fields of the queries that entries ask of children and parents. -/
def Criteria.renameEntries (table : List (String × String)) : List Entry → List Entry
  | [] => []
  | ⟨operator, .hasChild type query scoreMode innerHits⟩ :: rest =>
    ⟨operator, .hasChild type (query.rename table) scoreMode innerHits⟩
    :: Criteria.renameEntries table rest
  | ⟨operator, .hasParent type query score innerHits⟩ :: rest =>
    ⟨operator, .hasParent type (query.rename table) score innerHits⟩
    :: Criteria.renameEntries table rest
  | entry :: rest => entry :: Criteria.renameEntries table rest

def Criteria.renameNested (table : List (String × String)) : List Criteria → List Criteria
  | [] => []
  | criteria :: rest => criteria.rename table :: Criteria.renameNested table rest

end

end SearchCriteria
