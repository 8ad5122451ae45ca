import SearchCriteria.Proofs.Nulls
import SearchCriteria.Proofs.Provenance
import SearchCriteria.Proofs.Substance

/-!
# Where the nulls of a compiled query come from

The numbers that stand in a compiled query as such are those that the query holds: the boosts of its
criteria, and what is in the points, boxes and geometries of its filtering entries. A boost is refused
only if it is no number at all, and nothing is asked of the others, so any of them can be infinite, and
those of points and geometries need not be numbers. Bounds of ranges have to be finite. A term is null
only if an entry asks for null among other terms.
-/

namespace SearchCriteria

/-- The numbers of a point, a box or a geometry. -/
def Operand.ownNumbers : Operand → List Double
  | .geoPoint point => [point.lat, point.lon]
  | .planePoint point => [point.y, point.x]
  | .geoBox box => [box.topLeft.lat, box.topLeft.lon, box.bottomRight.lat, box.bottomRight.lon]
  | .geometry g => g.numbers
  | _ => []

/-- The numbers of the points, boxes and geometries that an operand is or consists of. -/
def Operand.numbers : Operand → List Double
  | .sequence items => items.flatMap ownNumbers
  | operand => operand.ownNumbers

/-- The numbers of a criterion that can stand in a query as such. -/
def Criterion.numbers (criterion : Criterion) : List Double :=
  criterion.boost.toList ++ criterion.filterEntries.flatMap fun entry => entry.operand.numbers

/-- An entry lists null among the terms that a document has to have, or must not have. -/
def Entry.ListsNull (entry : Entry) : Prop :=
  (entry.operator = .isIn ∨ entry.operator = .notIn) ∧
    ∃ items, entry.operand.items? = some items ∧ .null ∈ items

/-- What a null can come from: a number of a criterion, or a null that it lists as a term. -/
def Criterion.Holds (criterion : Criterion) : Option Double → Prop
  | some x => x ∈ criterion.numbers
  | none => ∃ entry ∈ criterion.queryEntries, entry.ListsNull

/-- Criteria hold what the criteria hold that stand in them, at whatever level. -/
def Criteria.Holds (criteria : Criteria) (cause : Option Double) : Prop :=
  ∃ criterion, criteria.Involves criterion ∧ criterion.Holds cause

def Query.Holds (query : Query) (cause : Option Double) : Prop :=
  ∃ criterion, query.Involves criterion ∧ criterion.Holds cause

theorem Criteria.Nests.holds {criteria nested : Criteria} {cause : Option Double}
    (h : criteria.Nests nested) (held : nested.Holds cause) : criteria.Holds cause := by
  obtain ⟨criterion, involves, held⟩ := held
  exact ⟨criterion, h.involves involves, held⟩

theorem Criteria.Embeds.holds {criteria : Criteria} {query : Query} {cause : Option Double}
    (h : criteria.Embeds query) (held : query.Holds cause) : criteria.Holds cause := by
  obtain ⟨criterion, involves, held⟩ := held
  exact ⟨criterion, h.involves involves, held⟩

theorem Query.holds_of_criteria {criteria : Criteria} {cause : Option Double}
    (h : criteria.Holds cause) : (Query.criteria criteria).Holds cause := by
  obtain ⟨criterion, involves, held⟩ := h
  exact ⟨criterion, ⟨criteria, rfl, involves⟩, held⟩

theorem Criterion.holds_of_boost {criterion : Criterion} {x : Double}
    (boosted : criterion.boost = some x) : criterion.Holds (some x) :=
  List.mem_append_left _ (Option.mem_toList.mpr boosted)

theorem Criterion.holds_of_filter {criterion : Criterion} {entry : Entry} {x : Double}
    (stands : entry ∈ criterion.filterEntries) (mem : x ∈ entry.operand.numbers) :
    criterion.Holds (some x) :=
  List.mem_append_right _ (List.mem_flatMap.mpr ⟨entry, stands, mem⟩)

theorem Operand.ownNumbers_subset (operand : Operand) : operand.ownNumbers ⊆ operand.numbers := by
  cases operand with
  | sequence items => exact List.nil_subset _
  | null | bool | integer | float | text | instant | date | geoPoint | planePoint | distance
  | geoBox | geometry | hasChild | hasParent => exact List.Subset.refl _

theorem Leaf.Draws.mono {admitted admitted' : Option Double → Prop} {predicate : Leaf}
    (h : predicate.Draws admitted) (more : ∀ cause, admitted cause → admitted' cause) :
    predicate.Draws admitted' := by
  cases predicate with
  | terms => exact fun null => more none (h null)
  | matchAll | queryString | matchText | fuzzy | range | fieldExists | wildcard | regexp => exact h

theorem GeoPredicate.Draws.mono {admitted admitted' : Double → Prop} {predicate : GeoPredicate}
    (h : predicate.Draws admitted) (more : ∀ x, admitted x → admitted' x) :
    predicate.Draws admitted' := by
  cases predicate with
  | distance => exact fun axis mem => more _ (h axis mem)
  | boundingBox => exact fun axis mem => more _ (h axis mem)
  | shape =>
    obtain ⟨g, same, all⟩ := h
    exact ⟨g, same, fun x mem => more x (all x mem)⟩

namespace QueryTree

/-- All parts of a tree that are not quoted have none but admitted numbers and null terms. -/
def DrawsAll (quoted : QueryTree → Prop) (admitted : Option Double → Prop) (tree : QueryTree) :
    Prop :=
  ∀ part, tree.Shows quoted part → part.Draws admitted

variable {quoted : QueryTree → Prop} {admitted : Option Double → Prop} {tree : QueryTree}

theorem drawsAll_leaf_iff {predicate : Leaf} {boost : Option Double} :
    (leaf predicate boost).DrawsAll quoted admitted ↔
      (∀ x ∈ boost, admitted (some x)) ∧ predicate.Draws admitted := by
  constructor
  · intro all
    have own := all _ (.itself _)
    exact ⟨own.boost, own.leaf predicate boost rfl⟩
  · rintro ⟨boosted, draws⟩ part (_ | _ | _ | ⟨⟨⟩⟩)
    exact ⟨boosted, by rintro _ _ ⟨⟩; exact draws, by rintro _ ⟨⟩⟩

/-- A predicate without a boost has no numbers, unless they are bounds of a range. -/
theorem drawsAll_plain {predicate : Leaf} (draws : predicate.Draws admitted) :
    (leaf predicate none).DrawsAll quoted admitted :=
  drawsAll_leaf_iff.mpr ⟨nofun, draws⟩

theorem drawsAll_geo {predicate : GeoPredicate}
    (draws : predicate.Draws fun x => admitted (some x)) :
    (geo predicate).DrawsAll quoted admitted := by
  rintro part (_ | _ | _ | ⟨⟨⟩⟩)
  exact ⟨nofun, by rintro _ _ ⟨⟩, by rintro _ ⟨⟩; exact draws⟩

theorem drawsAll_wrapper (source : String) : (wrapper source).DrawsAll quoted admitted := by
  rintro part (_ | _ | _ | ⟨⟨⟩⟩)
  exact ⟨nofun, by rintro _ _ ⟨⟩, by rintro _ ⟨⟩⟩

theorem drawsAll_bool_iff {q : BoolQuery} :
    (bool q).DrawsAll quoted admitted ↔
      (∀ x ∈ q.boost, admitted (some x)) ∧ ∀ clause ∈ q.clauses, clause.DrawsAll quoted admitted := by
  constructor
  · intro all
    exact ⟨(all _ (.itself _)).boost, fun clause mem part shown => all part (.clause mem shown)⟩
  · rintro ⟨boosted, each⟩ part shown
    cases shown with
    | itself => exact ⟨boosted, by rintro _ _ ⟨⟩, by rintro _ ⟨⟩⟩
    | clause mem shown => exact each _ mem part shown
    | related asks => cases asks

theorem drawsAll_nested_iff {path : String} {query : QueryTree} {scoreMode : ScoreMode}
    {boost : Option Double} :
    (nested path query scoreMode boost).DrawsAll quoted admitted ↔
      (∀ x ∈ boost, admitted (some x)) ∧ query.DrawsAll quoted admitted := by
  constructor
  · intro all
    exact ⟨(all _ (.itself _)).boost, fun part shown => all part (.nested shown)⟩
  · rintro ⟨boosted, below⟩ part shown
    cases shown with
    | itself => exact ⟨boosted, by rintro _ _ ⟨⟩, by rintro _ ⟨⟩⟩
    | nested shown => exact below part shown
    | related asks => cases asks

theorem drawsAll_related_iff {query : QueryTree} (asks : tree.asked? = some query) :
    tree.DrawsAll quoted admitted ↔
      (∀ x ∈ tree.boost?, admitted (some x)) ∧ (quoted query ∨ query.DrawsAll quoted admitted) := by
  constructor
  · intro all
    refine ⟨(all _ (.itself _)).boost, ?_⟩
    by_cases passed : quoted query
    · exact .inl passed
    · exact .inr fun part shown => all part (.related asks passed shown)
  · rintro ⟨boosted, below⟩ part shown
    cases shown with
    | itself =>
      refine ⟨boosted, ?_, ?_⟩
      · rintro _ _ rfl
        cases asks
      · rintro _ rfl
        cases asks
    | clause => cases asks
    | nested => cases asks
    | related asks' unquoted shown =>
      cases asks.symm.trans asks'
      rcases below with passed | below
      · exact absurd passed unquoted
      · exact below part shown

/-- The less is quoted and the less is admitted, the more is said. -/
theorem DrawsAll.mono {quoted' : QueryTree → Prop} {admitted' : Option Double → Prop}
    (h : tree.DrawsAll quoted admitted) (more : ∀ part, quoted part → quoted' part)
    (more' : ∀ cause, admitted cause → admitted' cause) : tree.DrawsAll quoted' admitted' := by
  intro part shown
  have own := h part (shown.of_more more)
  exact ⟨fun x boosted => more' _ (own.boost x boosted),
    fun predicate boost same => (own.leaf predicate boost same).mono more',
    fun predicate same => (own.geo predicate same).mono fun x => more' _⟩

/-- A boost that is admitted can be set. -/
theorem DrawsAll.withBoost (h : tree.DrawsAll quoted admitted) {boost : Option Double}
    (boosted : ∀ x ∈ boost, admitted (some x)) : (tree.withBoost boost).DrawsAll quoted admitted := by
  cases boost with
  | none => exact h
  | some x =>
    cases tree with
    | leaf => exact drawsAll_leaf_iff.mpr ⟨boosted, (drawsAll_leaf_iff.mp h).2⟩
    | geo | wrapper => exact h
    | bool => exact drawsAll_bool_iff.mpr ⟨boosted, (drawsAll_bool_iff.mp h).2⟩
    | nested => exact drawsAll_nested_iff.mpr ⟨boosted, (drawsAll_nested_iff.mp h).2⟩
    | hasChild =>
      exact (drawsAll_related_iff rfl).mpr ⟨boosted, ((drawsAll_related_iff rfl).mp h).2⟩
    | hasParent =>
      exact (drawsAll_related_iff rfl).mpr ⟨boosted, ((drawsAll_related_iff rfl).mp h).2⟩

theorem DrawsAll.not (h : tree.DrawsAll quoted admitted) : tree.not.DrawsAll quoted admitted :=
  drawsAll_bool_iff.mpr ⟨nofun, List.forall_mem_singleton.mpr h⟩

theorem drawsAll_must {trees : List QueryTree} {boost : Option Double}
    (boosted : ∀ x ∈ boost, admitted (some x)) (all : ∀ tree ∈ trees, tree.DrawsAll quoted admitted) :
    (bool { BoolQuery.none with must := trees, boost }).DrawsAll quoted admitted :=
  drawsAll_bool_iff.mpr ⟨boosted, by rwa [BoolQuery.clauses_of_must]⟩

theorem drawsAll_should {trees : List QueryTree}
    (all : ∀ tree ∈ trees, tree.DrawsAll quoted admitted) :
    (bool { BoolQuery.none with should := trees }).DrawsAll quoted admitted :=
  drawsAll_bool_iff.mpr ⟨nofun, by rwa [BoolQuery.clauses_of_should]⟩

/-- What carries predicates has their numbers and the boost. -/
theorem Carries.drawsAll {boost : Option Double} {leaves : List QueryTree}
    (h : tree.Carries boost leaves) (boosted : ∀ x ∈ boost, admitted (some x))
    (all : ∀ leaf ∈ leaves, leaf.DrawsAll quoted admitted) : tree.DrawsAll quoted admitted := by
  induction h with
  | single leaf => exact (all leaf (List.mem_singleton_self leaf)).withBoost boosted
  | several => exact drawsAll_must boosted all
  | moved _ _ _ ih => exact drawsAll_nested_iff.mpr ⟨nofun, ih all⟩
  | turned _ ih => exact (ih all).not

end QueryTree

/-- What holds of the bounds that are present. -/
theorem Bounds.forall_mem_fields {P : Json → Prop} (b : Bounds) :
    (∀ bound ∈ b.fields, P bound.2) ↔
      (∀ x ∈ b.gt, P x) ∧ (∀ x ∈ b.gte, P x) ∧ (∀ x ∈ b.lt, P x) ∧ ∀ x ∈ b.lte, P x := by
  obtain ⟨gt, gte, lt, lte⟩ := b
  cases gt <;> cases gte <;> cases lt <;> cases lte <;> simp [fields]

namespace Clause

variable {quoted : QueryTree → Prop} {admitted : Option Double → Prop} {settings : Settings}
  {field : String} {op : Operator} {operand : Operand} {entry : Entry} {tree : QueryTree}

/-- A float that is not finite is no bound. -/
theorem scalarJson?_isAtom {json : Json} (h : operand.scalarJson? = some json) : json.IsAtom := by
  unfold Operand.scalarJson? at h
  split at h
  case h_3 =>
    split at h <;> cases h
    trivial
  all_goals cases h <;> trivial

theorem bound_isAtom {json : Json} (h : bound field op operand = .ok json) : json.IsAtom := by
  unfold bound at h
  split at h <;> cases h
  exact scalarJson?_isAtom ‹_›

theorem optionalBound_isAtom {found : Option Json}
    (h : optionalBound field op operand = .ok found) : ∀ json ∈ found, json.IsAtom := by
  unfold optionalBound at h
  split at h
  · cases h
    exact nofun
  · obtain ⟨json, made, rfl⟩ := map_eq_ok_iff.mp h
    rintro _ ⟨⟩
    exact bound_isAtom made

theorem bounds_areAtoms {found : Bounds} (h : bounds field op operand = .ok found) :
    ∀ bound ∈ found.fields, bound.2.IsAtom := by
  rw [Bounds.forall_mem_fields]
  unfold bounds at h
  split at h
  case h_5 =>
    split at h
    · simp only [bind_eq_ok_iff, pure_eq_ok_iff] at h
      obtain ⟨gte, lower, lte, upper, rfl⟩ := h
      exact ⟨nofun, optionalBound_isAtom lower, nofun, optionalBound_isAtom upper⟩
    · cases h
  case h_6 => cases h
  all_goals
    simp only [bind_eq_ok_iff, pure_eq_ok_iff] at h
    obtain ⟨json, made, rfl⟩ := h
    simp [Bounds.unbounded, bound_isAtom made]

theorem presence_drawsAll (h : presence field op = .ok tree) : tree.DrawsAll quoted admitted := by
  unfold presence at h
  split at h <;> cases h
  · exact QueryTree.drawsAll_plain trivial
  · refine QueryTree.drawsAll_bool_iff.mpr ⟨nofun, ?_⟩
    intro clause mem
    rcases List.mem_pair.mp mem with rfl | rfl
    · exact QueryTree.drawsAll_plain trivial
    · exact QueryTree.drawsAll_plain trivial
  · exact QueryTree.drawsAll_plain trivial

theorem textLeaf_draws {written : String} {predicate : Leaf}
    (h : textLeaf settings field written op = .ok predicate) : predicate.Draws admitted := by
  unfold textLeaf at h
  split at h <;> cases h <;> trivial

theorem null_of_terms {items : List Operand} {values : List (Option String)} {label : String}
    (h : terms field label items = .ok values) (null : none ∈ values) : .null ∈ items := by
  obtain ⟨item, mem, made⟩ := exists_mem_of_forall₂ (mapM_eq_ok_iff.mp h).flip null
  unfold term at made
  split at made
  · exact mem
  · split at made <;> cases made

theorem exactMembership_drawsAll {values : List (Option String)}
    (admits : (op = .isIn ∨ op = .notIn) → none ∈ values → admitted none)
    (h : exactMembership field values op = .ok tree) : tree.DrawsAll quoted admitted := by
  have terms (listed : op = .isIn ∨ op = .notIn) :
      (QueryTree.leaf (.terms field values) none).DrawsAll quoted admitted :=
    QueryTree.drawsAll_plain (admits listed)
  unfold exactMembership at h
  split at h <;> cases h
  · exact QueryTree.drawsAll_must nofun (List.forall_mem_singleton.mpr (terms (.inl rfl)))
  · exact (terms (.inr rfl)).not

theorem textMembership_drawsAll {values : List String}
    (h : textMembership field values op = .ok tree) : tree.DrawsAll quoted admitted := by
  unfold textMembership at h
  split at h
  · cases h
  · split at h <;> cases h
    · exact QueryTree.drawsAll_plain trivial
    · exact QueryTree.drawsAll_plain trivial

theorem membership_drawsAll {field : ResolvedField} (admits : entry.ListsNull → admitted none)
    (h : membership field entry.operator entry.operand = .ok tree) :
    tree.DrawsAll quoted admitted := by
  unfold membership at h
  split at h
  · cases h
  · next items same =>
    obtain ⟨values, made, h⟩ := bind_eq_ok_iff.mp h
    split at h
    · exact exactMembership_drawsAll
        (fun listed null => admits ⟨listed, items, same, null_of_terms made null⟩) h
    · exact textMembership_drawsAll h

/-- An entry without an embedded query has no numbers but bounds that are finite. -/
theorem buildAs_drawsAll {family : ClauseFamily} {field : ResolvedField}
    {embedded : Except Fault (Option QueryTree)} (plain : entry.operand.embedded? = none)
    (admits : entry.ListsNull → admitted none)
    (h : buildAs family settings field entry embedded = .ok tree) :
    tree.DrawsAll quoted admitted := by
  cases family with
  | presence => exact presence_drawsAll h
  | text =>
    rw [buildAs, text] at h
    split at h
    · obtain ⟨predicate, made, rfl⟩ := map_eq_ok_iff.mp h
      exact QueryTree.drawsAll_plain (textLeaf_draws made)
    · cases h
  | range =>
    obtain ⟨bounds, made, rfl⟩ := map_eq_ok_iff.mp h
    exact QueryTree.drawsAll_plain (bounds_areAtoms made)
  | membership => exact membership_drawsAll admits h
  | relationship =>
    rw [buildAs, relationship.eq_def] at h
    split at h
    · next same => simp [same, Operand.embedded?] at plain
    · next same => simp [same, Operand.embedded?] at plain
    · cases h

theorem boost?_relate {query : Query} (h : operand.embedded? = some query)
    (found : Option QueryTree) : (relate settings operand found).boost? = none := by
  cases operand <;> cases h <;> rfl

/-- An entry has the numbers of what its embedded query is compiled to. -/
theorem build_drawsAll {field : ResolvedField} {compile : Query → Except Fault (Option QueryTree)}
    (h : build settings field entry (entry.operand.compileEmbedded compile) = .ok tree)
    (admits : entry.ListsNull → admitted none)
    (inside : ∀ query, entry.operand.embedded? = some query → ∀ found, compile query = .ok found →
      ∀ asked ∈ found, quoted asked ∨ asked.DrawsAll quoted admitted) :
    tree.DrawsAll quoted admitted := by
  cases embedded : entry.operand.embedded? with
  | some query =>
    rw [build_compileEmbedded embedded, bind_eq_ok_iff] at h
    obtain ⟨_, -, h⟩ := h
    obtain ⟨found, compiled, rfl⟩ := map_eq_ok_iff.mp h
    have asks := asked?_relate settings embedded found none
    refine (QueryTree.drawsAll_related_iff asks).mpr ⟨?_, ?_⟩
    · rw [QueryTree.withBoost_none, boost?_relate embedded]
      exact nofun
    · cases found with
      | none => exact .inr (QueryTree.drawsAll_plain trivial)
      | some asked => exact inside query embedded _ compiled asked rfl
  | none =>
    obtain ⟨_, -, h⟩ := bind_eq_ok_iff.mp h
    split at h
    · exact buildAs_drawsAll embedded admits h
    · cases h

end Clause

namespace GeoFilter

variable {field : String} {operand : Operand} {location : Location}

theorem plainLocation?_axes (h : plainLocation? operand = some location) :
    ∀ axis ∈ location.axes, axis.2 ∈ operand.ownNumbers := by
  unfold plainLocation? at h
  split at h
  · cases h
    simp [Location.axes, Operand.ownNumbers]
  · cases h
    simp [Location.axes, Operand.ownNumbers, PlanePoint.toGeoPoint]
  · split at h <;> cases h
    exact nofun
  · cases h

theorem centre_axes (h : centre field operand = .ok location) :
    ∀ axis ∈ location.axes, axis.2 ∈ operand.ownNumbers := by
  unfold centre at h
  split at h <;> cases h
  · exact plainLocation?_axes ‹_›
  · exact nofun

theorem corner_axes (h : corner field operand = .ok location) :
    ∀ axis ∈ location.axes, axis.2 ∈ operand.ownNumbers := by
  unfold corner at h
  split at h
  · cases h
    exact plainLocation?_axes ‹_›
  · split at h <;> cases h
    exact nofun
  · cases h

theorem distance_draws {point length : Operand} {predicate : GeoPredicate}
    (h : distance field point length = .ok predicate) : predicate.Draws (· ∈ point.ownNumbers) := by
  simp only [distance, bind_eq_ok_iff, pure_eq_ok_iff] at h
  obtain ⟨location, found, radius, -, rfl⟩ := h
  exact centre_axes found

theorem boundingBox_draws {items : List Operand} {predicate : GeoPredicate}
    (h : boundingBox field items = .ok predicate) :
    predicate.Draws (· ∈ items.flatMap Operand.ownNumbers) := by
  unfold boundingBox at h
  split at h
  · cases h
    intro axis mem
    simp only [Location.axes, List.cons_append, List.nil_append, List.mem_cons, List.not_mem_nil,
      or_false] at mem
    rcases mem with rfl | rfl | rfl | rfl <;> simp [Operand.ownNumbers]
  · next first second _ =>
    simp only [bind_eq_ok_iff, pure_eq_ok_iff] at h
    obtain ⟨topLeft, found, bottomRight, found', rfl⟩ := h
    intro axis mem
    simp only [List.flatMap_cons, List.flatMap_nil, List.append_nil, List.mem_append]
    exact (List.mem_append.mp mem).imp (corner_axes found axis) (corner_axes found' axis)
  · cases h

theorem shape_draws {relation : ShapeRelation} {predicate : GeoPredicate}
    (h : shape field operand relation = .ok predicate) :
    predicate.Draws (· ∈ operand.ownNumbers) := by
  unfold shape at h
  split at h <;> cases h
  exact ⟨_, rfl, fun x mem => mem⟩

/-- A predicate on places and shapes has the numbers of its entry. -/
theorem build_draws {entry : Entry} {predicate : GeoPredicate}
    (h : build field entry = .ok predicate) : predicate.Draws (· ∈ entry.operand.numbers) := by
  obtain ⟨_, -, h⟩ := bind_eq_ok_iff.mp h
  have own {operand : Operand} (draws : predicate.Draws (· ∈ operand.ownNumbers)) :
      predicate.Draws (· ∈ operand.numbers) := draws.mono operand.ownNumbers_subset
  split at h
  case h_1 =>
    split at h
    · next point length same =>
      rw [same]
      exact (distance_draws h).mono fun x mem => List.mem_flatMap.mpr ⟨point, List.mem_cons_self, mem⟩
    · cases h
  case h_2 =>
    split at h
    · next items same =>
      rw [same]
      exact boundingBox_draws h
    · refine own ((boundingBox_draws h).mono fun x mem => ?_)
      simpa using mem
  case h_7 => cases h
  -- What is left are the relations of shapes.
  all_goals
    obtain ⟨relation, -, h⟩ := bind_eq_ok_iff.mp h
    exact own (shape_draws h)

end GeoFilter

namespace Filter

variable {resolve : Resolver} {maxDepth depth : Nat} {quoted : QueryTree → Prop}

theorem composes_drawsAll {admitted : Option Double → Prop} :
    Composes (QueryTree.DrawsAll quoted admitted) where
  not _ h := h.not
  must _ _ all := QueryTree.drawsAll_must nofun all
  should _ _ all := QueryTree.drawsAll_should all

theorem place_drawsAll {admitted : Option Double → Prop} (field : ResolvedField)
    {predicate : GeoPredicate} (draws : predicate.Draws fun x => admitted (some x)) :
    (place field predicate).DrawsAll quoted admitted := by
  have own : (QueryTree.geo predicate).DrawsAll quoted admitted := QueryTree.drawsAll_geo draws
  unfold place
  split
  · exact QueryTree.drawsAll_nested_iff.mpr ⟨nofun, own⟩
  · exact own

/-- A filter has the numbers of the filtering entries on all levels. -/
theorem ofCriteria_drawsAll {criteria : Criteria} {filter : Option QueryTree}
    (h : ofCriteria resolve maxDepth depth criteria = .ok filter) :
    ∀ tree ∈ filter, tree.DrawsAll quoted criteria.Holds := by
  refine composes_drawsAll.ofCriteria h
    fun level criterion within field entry predicate stands built => place_drawsAll _ ?_
  exact (GeoFilter.build_draws built).mono
    fun x mem => ⟨criterion, within.involves, Criterion.holds_of_filter stands mem⟩

theorem host_drawsAll {admitted : Option Double → Prop} {query : Option QueryTree}
    (all : ∀ tree ∈ query, tree.DrawsAll quoted admitted) :
    (QueryTree.bool (host query)).DrawsAll quoted admitted := by
  have single (tree : QueryTree) (h : tree.DrawsAll quoted admitted) :
      (QueryTree.bool { BoolQuery.none with must := [tree] }).DrawsAll quoted admitted :=
    QueryTree.drawsAll_must nofun (List.forall_mem_singleton.mpr h)
  cases query with
  | none => exact single _ (QueryTree.drawsAll_plain trivial)
  | some tree =>
    have whole := all tree rfl
    cases tree with
    | bool q => exact whole
    | leaf | geo | wrapper | nested | hasChild | hasParent => exact single _ whole

/-- What a filter is attached to has no more numbers than it had. -/
theorem attach_drawsAll {admitted : Option Double → Prop} {query filter : Option QueryTree}
    (all : ∀ tree ∈ query, tree.DrawsAll quoted admitted)
    (all' : ∀ tree ∈ filter, tree.DrawsAll quoted admitted) :
    ∀ tree ∈ attach query filter, tree.DrawsAll quoted admitted := by
  intro tree made
  cases filter with
  | none => exact all tree made
  | some f =>
    obtain ⟨minimum, attached, -⟩ := attach_some query f
    rw [attached] at made
    cases made
    obtain ⟨boosted, each⟩ := QueryTree.drawsAll_bool_iff.mp (host_drawsAll all)
    refine QueryTree.drawsAll_bool_iff.mpr ⟨boosted, fun clause mem => ?_⟩
    rw [BoolQuery.clauses_filter] at mem
    rcases List.mem_append.mp mem with mem | last
    · exact each clause mem
    · rw [List.mem_singleton.mp last]
      exact all' f rfl

end Filter

namespace Compiler

variable {c : Compiler} {depth : Nat}

/-- A fragment has what its criterion holds and what is embedded in it has. -/
theorem drawsAll_of_isFragmentOf {quoted : QueryTree → Prop} {admitted : Option Double → Prop}
    {criterion : Criterion} {tree : QueryTree} (h : c.IsFragmentOf depth criterion tree)
    (own : ∀ cause, criterion.Holds cause → admitted cause)
    (inside : ∀ entry ∈ criterion.queryEntries, ∀ query, entry.operand.embedded? = some query →
      ∀ found, c.subQueryAt (depth + 1) query = .ok found →
        ∀ asked ∈ found, quoted asked ∨ asked.DrawsAll quoted admitted) :
    tree.DrawsAll quoted admitted := by
  obtain ⟨field, leaves, -, built, -, carries⟩ := h
  refine carries.drawsAll (fun x boosted => own _ (Criterion.holds_of_boost boosted))
    fun leaf mem => ?_
  obtain ⟨entry, there, made⟩ := exists_mem_of_forall₂ built.flip mem
  exact Clause.build_drawsAll made (fun null => own none ⟨entry, there, null⟩) (inside entry there)

/-- What compiles has what the query holds, but for what is quoted. -/
theorem hereditary_numbers (c : Compiler) :
    Hereditary
      (fun query => ∀ depth result, c.queryAt depth query = .ok result → ∀ tree ∈ result,
        query.native? = some tree ∨ tree.DrawsAll query.Quotes query.Holds)
      (fun criteria => ∀ depth result, c.criteriaAt depth criteria = .ok result →
        ∀ tree ∈ result, tree.DrawsAll criteria.Quotes criteria.Holds) where
  step criteria nests embeds depth result h tree made := by
    cases made
    obtain ⟨own, trees, fragments, nested, -, made⟩ := criteriaAt_arranges h
    obtain ⟨q, rfl, arranged⟩ := made tree rfl
    have unboosted : ∀ x ∈ q.boost, criteria.Holds (some x) := by
      obtain ⟨front, back, rfl, -, -⟩ := arranged.groups
      rintro _ ⟨⟩
    have clauses : q.clauses.Perm (own ++ trees.reduceOption) := by
      rw [BoolQuery.clauses, arranged.filter, List.append_nil]
      exact arranged.once
    refine QueryTree.drawsAll_bool_iff.mpr ⟨unboosted, fun part mem => ?_⟩
    rcases List.mem_append.mp (clauses.mem_iff.mp mem) with mem | mem
    · obtain ⟨owner, there, isFragment⟩ := exists_mem_of_forall₂ fragments.flip mem
      obtain ⟨there, -⟩ := List.mem_filter.mp there
      refine drawsAll_of_isFragmentOf isFragment
        (fun cause held => ⟨owner, ⟨0, criteria, .itself criteria, there⟩, held⟩)
        fun entry listed query embedded found compiled asked present => ?_
      have stands : criteria.Embeds query := ⟨owner, there, entry, listed, embedded⟩
      obtain ⟨_, -, compiled⟩ := bind_eq_ok_iff.mp compiled
      rcases embeds query stands _ found compiled asked present with finished | below
      · exact .inl ⟨query, stands.deep, finished⟩
      · exact .inr (below.mono (fun _ => stands.quotes) fun _ => stands.holds)
    · have listed := List.reduceOption_mem_iff.mp mem
      obtain ⟨inner, there, compiled⟩ := exists_mem_of_forall₂ nested.flip listed
      have nested : criteria.Nests inner := Criteria.nests_iff.mpr there
      exact (nests inner nested 0 _ compiled part rfl).mono (fun _ => nested.quotes)
        fun _ => nested.holds
  criteria criteria ih depth result h tree made := by
    rw [queryAt] at h
    simp only [bind_eq_ok_iff, pure_eq_ok_iff] at h
    obtain ⟨query, compiled, filter, filtered, rfl⟩ := h
    have whole : tree.DrawsAll criteria.Quotes criteria.Holds :=
      Filter.attach_drawsAll (ih depth query compiled) (Filter.ofCriteria_drawsAll filtered) tree made
    exact .inr (whole.mono (fun _ quotes => ⟨criteria, rfl, quotes⟩)
      fun _ => Query.holds_of_criteria)
  wrapped query ih depth result h := by
    rw [queryAt] at h
    exact ih depth result h
  text source depth result h tree made := by
    rw [queryAt] at h
    cases h
    cases made
    exact .inr (QueryTree.drawsAll_wrapper source)
  native finished depth result h tree made := by
    rw [queryAt] at h
    cases h
    exact .inl made
  template id params depth result h := by
    rw [queryAt] at h
    cases h

end Compiler

theorem Query.occurs_of_native? {tree : QueryTree} : ∀ {query : Query},
    query.native? = some tree → (Query.native tree).Occurs query
  | .native _, h => by
    cases h
    exact .itself
  | .wrapped _, h => .wrapped (occurs_of_native? h)

theorem Query.occurs_of_criteria? {criteria : Criteria} {part : Query} : ∀ {query : Query},
    query.criteria? = some criteria → part.Occurs (.criteria criteria) → part.Occurs query
  | .criteria _, h, inside => by
    cases h
    exact inside
  | .wrapped _, h, inside => .wrapped (occurs_of_criteria? h inside)

/-- Criteria that nest and embed nothing reach only themselves. -/
theorem Criteria.Reaches.eq_of_plain {criteria inner : Criteria} {level : Nat}
    (h : criteria.Reaches level inner) (flat : ∀ nested, ¬ criteria.Nests nested)
    (plain : ∀ asked, ¬ criteria.Embeds asked) : inner = criteria := by
  cases h with
  | itself => rfl
  | nested nests => exact absurd nests (flat _)
  | embedded embeds => exact absurd embeds (plain _)

theorem Query.Occurs.eq_of_plain {criteria : Criteria} {part : Query}
    (h : part.Occurs (.criteria criteria)) (flat : ∀ nested, ¬ criteria.Nests nested)
    (plain : ∀ asked, ¬ criteria.Embeds asked) : part = .criteria criteria := by
  cases h with
  | itself => rfl
  | embedded embeds inside =>
    obtain ⟨_, inner, reached, embeds⟩ := embeds
    rw [reached.eq_of_plain flat plain] at embeds
    exact absurd embeds (plain _)

/-- A finished tree that is quoted occurs as a query. -/
theorem Query.Quotes.occurs {query : Query} {tree : QueryTree} (h : query.Quotes tree) :
    (Query.native tree).Occurs query := by
  obtain ⟨criteria, consists, other, deep, finished⟩ := h
  exact occurs_of_criteria? consists (.embedded deep (occurs_of_native? finished))

namespace Compiler

/-- Where no finished tree is handed over, the nulls in the JSON form of what a query is compiled to
are nulls that the query lists as terms and numbers of the query that are not finite, each where the
term or the number is written. So if all numbers of the query are finite, every null is an item of a
list of terms. -/
theorem nulls_of_dispatch (c : Compiler) {query : Query} {normalize : Query → Query}
    {tree : QueryTree} (dispatched : c.dispatch query normalize = .ok (some tree))
    (compiled : ∀ finished, ¬ (Query.native finished).Occurs (normalize query)) :
    (∀ path, tree.toJson.at? path = some .null ↔
      ∃ cause, tree.NullStands path cause ∧ (normalize query).Holds cause ∧
        ∀ x ∈ cause, x.isFinite = false) ∧
    ((∀ x, (normalize query).Holds (some x) → x.isFinite) →
      ∀ path, tree.toJson.at? path = some .null → (normalize query).Holds none ∧
        ∃ pre field values boost index, tree.Contains (.leaf (.terms field values) boost) ∧
          tree.toJson.at? pre = some (QueryTree.leaf (.terms field values) boost).toJson ∧
          path = pre ++ [.field "terms", .field field, .item index] ∧
          values[index]? = some none) := by
  have draws : ∀ part, tree.Contains part → part.Draws (normalize query).Holds := by
    rcases c.hereditary_numbers.holds_query (normalize query) 0 _ dispatched tree rfl with
      finished | all
    · exact absurd (Query.occurs_of_native? finished) (compiled tree)
    · intro part within
      exact all part (within.of_more fun finished quotes => compiled finished quotes.occurs)
  constructor
  case left =>
    intro path
    constructor
    · intro null
      obtain ⟨cause, stands, held⟩ := QueryTree.nullStands_of_nullAt draws null
      exact ⟨cause, stands, held, stands.isFinite⟩
    · rintro ⟨_, stands, -⟩
      exact stands.nullAt
  case right =>
    intro finite path null
    obtain ⟨_, ⟨pre, part, rest, within, found, rfl, own⟩, held⟩ :=
      QueryTree.nullStands_of_nullAt draws null
    cases own with
    | term shown absent => exact ⟨held, pre, _, _, _, _, within, found, rfl, absent⟩
    | boost _ other | centre _ other | corner _ _ other | outline _ _ other =>
      rw [finite _ held] at other
      cases other

/-- Asks for one field with a boost, and that another one is null: there is a null for the boost if
that is infinite, and otherwise the only nulls are terms. -/
theorem nulls_of_dispatch_boosted :
    let listed : Criterion := { Criterion.on ⟨"b", some .keyword, none⟩ with
      queryEntries := [⟨.isIn, .sequence [.null]⟩] }
    let criteria (boost : Double) : Criteria :=
      ⟨[{ Criterion.present "a" .and false with boost := some boost }, listed]⟩
    let boostPath : List JsonStep :=
      [.field "bool", .field "must", .item 0, .field "exists", .field "boost"]
    (∃ tree, standard.dispatch (.criteria (criteria (.infinite false))) id = .ok (some tree) ∧
      ∃ cause, tree.NullStands boostPath cause ∧
        (Query.criteria (criteria (.infinite false))).Holds cause) ∧
    ∃ tree, standard.dispatch (.criteria (criteria (.ofInt 1))) id = .ok (some tree) ∧
      ∀ path, tree.toJson.at? path = some .null →
        ∃ pre field index, path = pre ++ [.field "terms", .field field, .item index] := by
  intro listed criteria boostPath
  have flat (boost : Double) : ∀ nested, ¬ (criteria boost).Nests nested := by
    simp [criteria, Criteria.Nests, Criterion.present, Criterion.on, Criterion.blank, listed]
  have plain (boost : Double) : ∀ asked, ¬ (criteria boost).Embeds asked := by
    simp [criteria, Criteria.Embeds, Criterion.present, Criterion.on, Criterion.blank, listed,
      Operand.embedded?]
  have compiled (boost : Double) (finished : QueryTree) :
      ¬ (Query.native finished).Occurs (.criteria (criteria boost)) := by
    intro occurs
    cases occurs.eq_of_plain (flat boost) (plain boost)
  have dispatched (boost : Double) :
      standard.dispatch (.criteria (criteria boost)) id = .ok (some _) := rfl
  constructor
  case left =>
    have nulls := (nulls_of_dispatch standard (dispatched (.infinite false)) (compiled _)).1
    obtain ⟨cause, stands, held, -⟩ := (nulls boostPath).mp rfl
    exact ⟨_, dispatched _, cause, stands, held⟩
  case right =>
    have nulls := (nulls_of_dispatch standard (dispatched (.ofInt 1)) (compiled _)).2
    have finite (x : Double) (held : (Query.criteria (criteria (.ofInt 1))).Holds (some x)) :
        x.isFinite := by
      obtain ⟨criterion, ⟨_, ⟨⟩, level, inner, reached, mem⟩, held⟩ := held
      rw [reached.eq_of_plain (flat _) (plain _)] at mem
      rcases List.mem_pair.mp mem with rfl | rfl
      · rw [List.mem_singleton.mp held]
        rfl
      · cases held
    refine ⟨_, dispatched _, fun path null => ?_⟩
    obtain ⟨-, pre, field, _, _, index, -, -, same, -⟩ := nulls finite path null
    exact ⟨pre, field, index, same⟩

end Compiler

end SearchCriteria
