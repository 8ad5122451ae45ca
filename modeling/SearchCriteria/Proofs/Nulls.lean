import SearchCriteria.Proofs.JsonPath

/-!
# Nulls in written queries

A number that is not finite is written as null, and so is a term that is null. Whatever null there is
in the JSON form of a query is one of these: a term, a boost, the latitude or longitude of a point, or
a number of a geometry. The bounds of a range could be null as well, but bounds that stand for scalars
never are.
-/

namespace SearchCriteria

/-- The name of the clauses of a kind in the JSON form. -/
def ClauseKind.label : ClauseKind → String
  | .must => "must"
  | .should => "should"
  | .mustNot => "must_not"
  | .filter => "filter"

theorem exists_mem_flatten_iff {α : Type} {P : α → Prop} {lists : List (List α)} :
    (∃ a ∈ lists.flatten, P a) ↔ ∃ list ∈ lists, ∃ a ∈ list, P a := by
  simp only [List.mem_flatten]
  constructor
  · rintro ⟨a, ⟨list, mem, mem'⟩, holds⟩
    exact ⟨list, mem, a, mem', holds⟩
  · rintro ⟨list, mem, a, mem', holds⟩
    exact ⟨a, ⟨list, mem, mem'⟩, holds⟩

/-- There is a null in a JSON value, at whatever path. -/
def Json.HasNull (json : Json) : Prop :=
  ∃ path, json.NullAt path

namespace Json

@[simp] theorem hasNull_ofDouble {x : Double} : (ofDouble x).HasNull ↔ x.isFinite = false := by
  simp [HasNull, nullAt_ofDouble]

theorem IsAtom.not_hasNull {json : Json} (h : json.IsAtom) : ¬ json.HasNull :=
  fun ⟨_, found⟩ => h.not_nullAt found

@[simp] theorem hasNull_array {items : List Json} :
    (Json.array items).HasNull ↔ ∃ item ∈ items, item.HasNull := by
  simp only [HasNull, nullAt_array, List.mem_iff_getElem?]
  constructor
  · rintro ⟨_, index, rest, item, -, found, null⟩
    exact ⟨item, ⟨index, found⟩, rest, null⟩
  · rintro ⟨item, ⟨index, found⟩, rest, null⟩
    exact ⟨_, index, rest, item, rfl, found, null⟩

theorem hasNull_array_map {α : Type} {items : List α} {write : α → Json} :
    (Json.array (items.map write)).HasNull ↔ ∃ item ∈ items, (write item).HasNull := by
  simp only [hasNull_array, List.mem_map, exists_exists_and_eq_and]

end Json

/-- The numbers of a position. -/
def Position.numbers (p : Position) : List Double :=
  [p.lon, p.lat]

theorem Position.hasNull_iff (p : Position) :
    p.toJson.HasNull ↔ ∃ x ∈ p.numbers, x.isFinite = false := by
  simp [toJson, numbers]

namespace Geometry

mutual

/-- The positions of a geometry and of all of its members. -/
def positions : Geometry → List Position
  | .point position => [position]
  | .multiPoint positions => positions
  | .lineString positions => positions
  | .multiLineString lines => lines.flatten
  | .polygon rings => rings.flatten
  | .multiPolygon polygons => polygons.flatten.flatten
  | .collection members => positionsOf members

def positionsOf : List Geometry → List Position
  | [] => []
  | member :: rest => positions member ++ positionsOf rest

end

/-- The numbers of a geometry. -/
def numbers (g : Geometry) : List Double :=
  g.positions.flatMap Position.numbers

theorem positionsOf_eq_flatMap (members : List Geometry) :
    positionsOf members = members.flatMap positions := by
  induction members with
  | nil => rw [positionsOf, List.flatMap_nil]
  | cons member rest ih => rw [positionsOf, ih, List.flatMap_cons]

theorem memberJson_eq_map (members : List Geometry) : memberJson members = members.map toJson := by
  induction members with
  | nil => rw [memberJson, List.map_nil]
  | cons member rest ih =>
    rw [memberJson, ih, List.map_cons]
    rfl

/-- The name of the type is no null, so the nulls are those of the content. -/
theorem hasNull_iff_content (g : Geometry) : g.toJson.HasNull ↔ g.content.2.HasNull := by
  have apart : g.content.1 ≠ "type" := by cases g <;> simp [content]
  constructor
  · rintro ⟨_, null⟩
    obtain ⟨name, rest, value, -, found, null⟩ := Json.nullAt_object.mp null
    rcases List.mem_pair.mp (Table.mem_of_find? found) with same | ⟨⟨⟩⟩
    · exact ⟨rest, (congrArg Prod.snd same) ▸ null⟩
    · exact absurd null (Json.not_nullAt_string _)
  · rintro ⟨rest, null⟩
    exact ⟨_, Json.nullAt_object.mpr
      ⟨g.content.1, rest, g.content.2, rfl, by simp [fields, Table.find?_cons], null⟩⟩

theorem hasNull_lineJson (positions : List Position) :
    (lineJson positions).HasNull ↔ ∃ p ∈ positions, p.toJson.HasNull :=
  Json.hasNull_array_map

theorem hasNull_linesJson (lines : List (List Position)) :
    (linesJson lines).HasNull ↔ ∃ p ∈ lines.flatten, p.toJson.HasNull := by
  simp only [linesJson, Json.hasNull_array_map, hasNull_lineJson, exists_mem_flatten_iff]

/-- There is a null in a geometry if there is one in a position of it. -/
theorem hasNull_iff_positions : ∀ g : Geometry,
    g.toJson.HasNull ↔ ∃ p ∈ g.positions, p.toJson.HasNull
  | .point position => by simp [hasNull_iff_content, content, positions]
  | .multiPoint _ => by rw [hasNull_iff_content, content, positions, hasNull_lineJson]
  | .lineString _ => by rw [hasNull_iff_content, content, positions, hasNull_lineJson]
  | .multiLineString _ => by rw [hasNull_iff_content, content, positions, hasNull_linesJson]
  | .polygon _ => by rw [hasNull_iff_content, content, positions, hasNull_linesJson]
  | .multiPolygon polygons => by
    simp only [hasNull_iff_content, content, positions, Json.hasNull_array_map, hasNull_linesJson,
      exists_mem_flatten_iff]
  | .collection members => by
    have ih : ∀ member ∈ members, member.toJson.HasNull ↔ ∃ p ∈ member.positions, p.toJson.HasNull :=
      fun member _ => hasNull_iff_positions member
    rw [hasNull_iff_content, content, positions, memberJson_eq_map, positionsOf_eq_flatMap,
      Json.hasNull_array_map, List.flatMap_def, exists_mem_flatten_iff]
    simp only [List.mem_map, exists_exists_and_eq_and]
    exact exists_congr fun member => and_congr_right (ih member)
termination_by g => sizeOf g
decreasing_by
  have := List.sizeOf_lt_of_mem ‹_›
  simp only [Geometry.collection.sizeOf_spec]
  omega

/-- There is a null in a geometry if one of its numbers is not finite. -/
theorem hasNull_iff (g : Geometry) : g.toJson.HasNull ↔ ∃ x ∈ g.numbers, x.isFinite = false := by
  simp only [hasNull_iff_positions, Position.hasNull_iff, numbers, List.flatMap_def,
    exists_mem_flatten_iff, List.mem_map, exists_exists_and_eq_and]

end Geometry

/-- The numbers of a location that is written as such, under their names. -/
def Location.axes : Location → List (String × Double)
  | .latLon point => [("lat", point.lat), ("lon", point.lon)]
  | .text _ => []
  | .geohash _ => []

theorem Location.nullAt {location : Location} {path : List JsonStep}
    (h : location.toJson.NullAt path) :
    ∃ axis ∈ location.axes, path = [.field axis.1] ∧ axis.2.isFinite = false := by
  cases location with
  | text | geohash => exact absurd h (Json.not_nullAt_string _)
  | latLon point =>
    obtain ⟨name, rest, value, rfl, found, null⟩ := Json.nullAt_object.mp h
    rcases List.mem_pair.mp (Table.mem_of_find? found) with ⟨⟨⟩⟩ | ⟨⟨⟩⟩
    · obtain ⟨rfl, other⟩ := Json.nullAt_ofDouble.mp null
      exact ⟨("lat", point.lat), List.mem_cons_self, rfl, other⟩
    · obtain ⟨rfl, other⟩ := Json.nullAt_ofDouble.mp null
      exact ⟨("lon", point.lon), List.mem_cons_of_mem _ (List.mem_singleton_self _), rfl, other⟩

theorem Location.nullAt_axis {location : Location} {axis : String × Double}
    (mem : axis ∈ location.axes) (other : axis.2.isFinite = false) :
    location.toJson.NullAt [.field axis.1] := by
  cases location with
  | text | geohash => cases mem
  | latLon point =>
    rcases List.mem_pair.mp mem with rfl | rfl
    · simp_all [Json.NullAt, toJson, GeoPoint.toJson, Table.find?_cons, Json.ofDouble]
    · simp_all [Json.NullAt, toJson, GeoPoint.toJson, Table.find?_cons, Json.ofDouble]

/-- The field of a predicate if it stands over all that the predicate says. -/
def Leaf.heading : Leaf → List JsonStep
  | .matchText field _ _ => [.field field]
  | .fuzzy field _ _ => [.field field]
  | .range field _ => [.field field]
  | .wildcard field _ => [.field field]
  | .regexp field _ => [.field field]
  | .matchAll => []
  | .queryString _ _ _ _ => []
  | .terms _ _ => []
  | .fieldExists _ => []

namespace QueryTree

def boost? : QueryTree → Option Double
  | .leaf _ boost => boost
  | .geo _ => none
  | .wrapper _ => none
  | .bool q => q.boost
  | .nested _ _ _ boost => boost
  | .hasChild _ _ _ _ boost => boost
  | .hasParent _ _ _ _ boost => boost

/-- Where the boost of a query stands in its JSON form. -/
def boostPath : QueryTree → List JsonStep
  | .leaf predicate _ => .field predicate.kind :: predicate.heading ++ [.field "boost"]
  | query => [.field query.kind, .field "boost"]

/-- A null in the JSON form of a query that is no null of a part of the query: a term that is null,
unless a boost takes the place of the terms, or a number that is not finite. -/
inductive OwnNull : QueryTree → List JsonStep → Option Double → Prop where
  | term {field : String} {values : List (Option String)} {boost : Option Double} {index : Nat}
      (shown : boost = none ∨ field ≠ "boost") (null : values[index]? = some none) :
      OwnNull (.leaf (.terms field values) boost)
        [.field "terms", .field field, .item index] none
  | boost {tree : QueryTree} {x : Double} (boosted : tree.boost? = some x)
      (other : x.isFinite = false) : OwnNull tree tree.boostPath (some x)
  | centre {field radius : String} {centre : Location} {method : DistanceMethod}
      {axis : String × Double} (mem : axis ∈ centre.axes) (other : axis.2.isFinite = false) :
      OwnNull (.geo (.distance field centre radius method))
        [.field "geo_distance", .field field, .field axis.1] (some axis.2)
  | corner {field name : String} {topLeft bottomRight corner : Location} {axis : String × Double}
      (is : (name, corner) ∈ [("top_left", topLeft), ("bottom_right", bottomRight)])
      (mem : axis ∈ corner.axes) (other : axis.2.isFinite = false) :
      OwnNull (.geo (.boundingBox field topLeft bottomRight))
        [.field "geo_bounding_box", .field field, .field name, .field axis.1] (some axis.2)
  | outline {field : String} {g : Geometry} {relation : ShapeRelation} {x : Double}
      {path : List JsonStep} (null : g.toJson.NullAt path) (mem : x ∈ g.numbers)
      (other : x.isFinite = false) :
      OwnNull (.geo (.shape field g.fields relation))
        ([.field "geo_shape", .field field, .field "shape"] ++ path) (some x)

end QueryTree

/-- The nulls of an object that can have a boost: the boost is one, or the null is in another field
that the boost does not take the place of. -/
theorem nullAt_boosted {fields : List (String × Json)} {boost : Option Double}
    {path : List JsonStep} (h : (Json.ofFields (fields ++ Leaf.boostFields boost)).NullAt path) :
    (∃ x, boost = some x ∧ x.isFinite = false ∧ path = [.field "boost"]) ∨
      ∃ name rest value, path = .field name :: rest ∧ (name, value) ∈ fields ∧
        (boost = none ∨ name ≠ "boost") ∧ value.NullAt rest := by
  obtain ⟨name, rest, value, rfl, found, null⟩ := Json.nullAt_ofFields.mp h
  rw [Table.last?_append, Leaf.boostFields, Table.last?_optional] at found
  by_cases own : boost = none ∨ name ≠ "boost"
  · have absent : (if "boost" = name then boost.map Json.ofDouble else none) = none := by
      rcases own with rfl | apart
      · simp
      · rw [if_neg (Ne.symm apart)]
    rw [absent, Option.none_or] at found
    exact .inr ⟨name, rest, value, rfl, Table.mem_of_last? found, own, null⟩
  · simp only [not_or, not_not] at own
    obtain ⟨some, rfl⟩ := own
    obtain ⟨x, rfl⟩ := Option.ne_none_iff_exists'.mp some
    cases found
    obtain ⟨rfl, other⟩ := Json.nullAt_ofDouble.mp null
    exact .inl ⟨x, rfl, other, rfl⟩

/-- Where there are no nulls in the other fields, the boost is the only one. -/
theorem nullAt_boosted_of_plain {fields : List (String × Json)} {boost : Option Double}
    {path : List JsonStep} (plain : ∀ entry ∈ fields, ¬ entry.2.HasNull)
    (h : (Json.ofFields (fields ++ Leaf.boostFields boost)).NullAt path) :
    ∃ x, boost = some x ∧ x.isFinite = false ∧ path = [.field "boost"] := by
  rcases nullAt_boosted h with own | ⟨name, rest, value, rfl, mem, -, null⟩
  · exact own
  · exact absurd ⟨rest, null⟩ (plain _ mem)

@[simp] theorem not_nullAt_ofTexts (texts : List String) {path : List JsonStep} :
    ¬ (Json.ofTexts texts).NullAt path := by
  intro null
  obtain ⟨text, -, _, null⟩ := Json.hasNull_array_map.mp ⟨path, null⟩
  exact Json.not_nullAt_string text null

namespace Leaf

/-- No bound of a range is null, nor is anything in a bound, and null is a term only if that is
admitted. -/
def Draws (admitted : Option Double → Prop) : Leaf → Prop
  | .range _ bounds => ∀ bound ∈ bounds.fields, bound.2.IsAtom
  | .terms _ values => none ∈ values → admitted none
  | _ => True

/-- What stands under the kind of a predicate has a null for a boost, or for a term. -/
theorem nullAt_body {admitted : Option Double → Prop} {predicate : Leaf} {boost : Option Double}
    {path : List JsonStep} (draws : predicate.Draws admitted)
    (h : (predicate.body boost).NullAt path) :
    (∃ x, boost = some x ∧ x.isFinite = false ∧ path = predicate.heading ++ [.field "boost"]) ∨
      ∃ field values index, predicate = .terms field values ∧ (boost = none ∨ field ≠ "boost") ∧
        values[index]? = some none ∧ path = [.field field, .item index] := by
  -- Under its heading, if there is one, a predicate other than a set of terms has atoms and texts.
  have headed {field : String} {fields : List (String × Json)} (plain : ∀ entry ∈ fields, entry.2.IsAtom)
      (h : (Json.object [(field, .ofFields (fields ++ boostFields boost))]).NullAt path) :
      ∃ x, boost = some x ∧ x.isFinite = false ∧ path = [.field field] ++ [.field "boost"] := by
    obtain ⟨rest, rfl, null⟩ := Json.nullAt_single.mp h
    obtain ⟨x, boosted, other, rfl⟩ :=
      nullAt_boosted_of_plain (fun entry mem => (plain entry mem).not_hasNull) null
    exact ⟨x, boosted, other, rfl⟩
  cases predicate with
  | matchAll => exact .inl (nullAt_boosted_of_plain (by simp) h)
  | queryString query fields operator analyzeWildcard =>
    refine .inl (nullAt_boosted_of_plain ?_ h)
    cases analyzeWildcard <;> simp [Json.HasNull]
  | matchText field query operator =>
    exact .inl (headed (by simp [Json.IsAtom]) h)
  | fuzzy field value fuzziness =>
    exact .inl (headed (by simp [Json.IsAtom]) h)
  | range field bounds => exact .inl (headed draws h)
  | terms field values =>
    rcases nullAt_boosted h with own | ⟨name, rest, value, rfl, mem, shown, null⟩
    · exact .inl own
    · obtain ⟨⟩ := List.mem_singleton.mp mem
      obtain ⟨index, rest, _, rfl, found, null⟩ := Json.nullAt_array.mp null
      rw [List.getElem?_map] at found
      obtain ⟨term, found', rfl⟩ := Option.map_eq_some_iff.mp found
      cases term with
      | some text => exact absurd null (Json.not_nullAt_string text)
      | none =>
        rw [Json.nullAt_null.mp null]
        exact .inr ⟨field, values, index, rfl, shown, found', rfl⟩
  | fieldExists field =>
    exact .inl (nullAt_boosted_of_plain (by simp [Json.HasNull]) h)
  | wildcard field pattern => exact .inl (headed (by simp [Json.IsAtom]) h)
  | regexp field pattern => exact .inl (headed (by simp [Json.IsAtom]) h)

end Leaf

/-- A predicate on places and shapes has none but admitted numbers, and its shape is a geometry. -/
def GeoPredicate.Draws (admitted : Double → Prop) : GeoPredicate → Prop
  | .distance _ centre _ _ => ∀ axis ∈ centre.axes, admitted axis.2
  | .boundingBox _ topLeft bottomRight =>
    ∀ axis ∈ topLeft.axes ++ bottomRight.axes, admitted axis.2
  | .shape _ outline _ => ∃ g : Geometry, outline = g.fields ∧ ∀ x ∈ g.numbers, admitted x

/-- What stands under the kind of a predicate on places and shapes has a null for a number of it. -/
theorem GeoPredicate.nullAt_body {admitted : Double → Prop} {predicate : GeoPredicate}
    {path : List JsonStep} (draws : predicate.Draws admitted) (h : predicate.body.NullAt path) :
    ∃ x, admitted x ∧ (QueryTree.geo predicate).OwnNull (.field predicate.kind :: path) (some x) := by
  cases predicate with
  | distance field centre radius method =>
    obtain ⟨name, rest, value, rfl, found, null⟩ := Json.nullAt_ofFields.mp h
    have mem := Table.mem_of_last? found
    simp only [List.mem_cons, Prod.mk.injEq, List.not_mem_nil, or_false] at mem
    rcases mem with ⟨rfl, rfl⟩ | ⟨rfl, rfl⟩ | ⟨rfl, rfl⟩
    · exact absurd null (Json.not_nullAt_string _)
    · exact absurd null (Json.not_nullAt_string _)
    · obtain ⟨axis, mem, rfl, other⟩ := Location.nullAt null
      exact ⟨axis.2, draws axis mem, .centre mem other⟩
  | boundingBox field topLeft bottomRight =>
    obtain ⟨rest, rfl, null⟩ := Json.nullAt_single.mp h
    obtain ⟨name, rest, value, rfl, found, null⟩ := Json.nullAt_object.mp null
    rcases List.mem_pair.mp (Table.mem_of_find? found) with ⟨⟨⟩⟩ | ⟨⟨⟩⟩
    · obtain ⟨axis, mem, rfl, other⟩ := Location.nullAt null
      exact ⟨axis.2, draws axis (List.mem_append_right _ mem),
        .corner (List.mem_cons_of_mem _ (List.mem_singleton_self _)) mem other⟩
    · obtain ⟨axis, mem, rfl, other⟩ := Location.nullAt null
      exact ⟨axis.2, draws axis (List.mem_append_left _ mem), .corner List.mem_cons_self mem other⟩
  | shape field outline relation =>
    obtain ⟨g, rfl, admitted⟩ := draws
    obtain ⟨rest, rfl, null⟩ := Json.nullAt_single.mp h
    obtain ⟨name, rest, value, rfl, found, null⟩ := Json.nullAt_object.mp null
    rcases List.mem_pair.mp (Table.mem_of_find? found) with ⟨⟨⟩⟩ | ⟨⟨⟩⟩
    · exact absurd null (Json.not_nullAt_string _)
    · obtain ⟨x, mem, other⟩ := g.hasNull_iff.mp ⟨rest, null⟩
      exact ⟨x, admitted x mem, .outline null mem other⟩

namespace QueryTree

/-- A query has none but admitted numbers in what it says itself, and null terms only if they are
admitted. -/
structure Draws (admitted : Option Double → Prop) (tree : QueryTree) : Prop where
  boost : ∀ x ∈ tree.boost?, admitted (some x)
  leaf : ∀ predicate boost, tree = .leaf predicate boost → predicate.Draws admitted
  geo : ∀ predicate, tree = .geo predicate → predicate.Draws fun x => admitted (some x)

/-- A null in the JSON form of a query is an own null of a part of it, whose JSON form stands on the
path to the null. -/
def NullStands (tree : QueryTree) (path : List JsonStep) (cause : Option Double) : Prop :=
  ∃ pre part rest, tree.Contains part ∧ tree.toJson.at? pre = some part.toJson ∧
    path = pre ++ rest ∧ part.OwnNull rest cause

variable {tree part : QueryTree} {pre path rest : List JsonStep} {cause : Option Double}

theorem OwnNull.stands (h : tree.OwnNull path cause) : tree.NullStands path cause :=
  ⟨[], tree, path, .itself tree, rfl, rfl, h⟩

theorem NullStands.below (h : part.NullStands rest cause) (contains : tree.Contains part)
    (stands : tree.toJson.at? pre = some part.toJson) : tree.NullStands (pre ++ rest) cause := by
  obtain ⟨inner, own, last, within, found, rfl, null⟩ := h
  exact ⟨pre ++ inner, own, last, contains.trans within,
    (Json.at?_append stands inner).trans found, (List.append_assoc ..).symm, null⟩

theorem mem_clauseFields {name : String} {clauses : List Json} {entry : String × Json}
    (h : entry ∈ clauseFields name clauses) : entry = (name, .array clauses) := by
  unfold clauseFields at h
  split at h
  · cases h
  · exact List.mem_singleton.mp h

@[simp] theorem last?_clauseFields (key name : String) (clauses : List Json) :
    Table.last? key (clauseFields name clauses)
      = if name = key ∧ clauses ≠ [] then some (.array clauses) else none := by
  cases clauses <;> simp [clauseFields]

/-- A clause of a boolean query stands in the list of its kind. -/
theorem at?_of_clause {q : BoolQuery} {kind : ClauseKind} {index : Nat} {clause : QueryTree}
    (h : (q.clausesOf kind)[index]? = some clause) :
    (bool q).toJson.at? [.field "bool", .field kind.label, .item index] = some clause.toJson := by
  obtain ⟨must, should, mustNot, filter, minimum, boost⟩ := q
  have some : (BoolQuery.clausesOf ⟨must, should, mustNot, filter, minimum, boost⟩ kind) ≠ [] := by
    rintro none
    rw [none] at h
    cases h
  cases kind <;>
    simp_all [toJson, body, QueryTree.kind, boolBody, Table.find?_cons, ClauseKind.label,
      BoolQuery.clausesOf, Leaf.boostFields]

@[simp] theorem not_nullAt_innerHits (hits : InnerHits) : ¬ hits.toJson.NullAt path := by
  intro null
  obtain ⟨name, rest, value, rfl, found, null⟩ := Json.nullAt_ofFields.mp null
  have mem := Table.mem_of_last? found
  simp only [List.mem_append, List.mem_map] at mem
  rcases mem with (⟨_, -, ⟨⟩⟩ | ⟨_, -, ⟨⟩⟩) | ⟨_, -, ⟨⟩⟩
  · exact Json.not_nullAt_string _ null
  · exact Json.not_nullAt_ofNat _ null
  · exact Json.not_nullAt_ofNat _ null

variable {admitted : Option Double → Prop}

/-- The nulls of a query around another one, in which nothing else than the boost can be null. -/
theorem nullStands_around (query : QueryTree) {fields : List (String × Json)}
    {boost : Option Double}
    (json : tree.toJson = .object [(tree.kind, .ofFields (fields ++ Leaf.boostFields boost))])
    (boosted : tree.boost? = boost) (boostPath : tree.boostPath = [.field tree.kind, .field "boost"])
    (inside : Table.last? "query" fields = some query.toJson)
    (plain : ∀ entry ∈ fields, entry = ("query", query.toJson) ∨ ¬ entry.2.HasNull)
    (contains : tree.Contains query) (draws : ∀ part, tree.Contains part → part.Draws admitted)
    (ih : ∀ path, query.toJson.NullAt path →
      ∃ cause, query.NullStands path cause ∧ admitted cause)
    (h : tree.toJson.NullAt path) :
    ∃ cause, tree.NullStands path cause ∧ admitted cause := by
  rw [json] at h
  obtain ⟨rest, rfl, null⟩ := Json.nullAt_single.mp h
  rcases nullAt_boosted null with ⟨x, rfl, other, rfl⟩ | ⟨name, rest, value, rfl, mem, -, null⟩
  · exact ⟨some x, boostPath ▸ (OwnNull.boost boosted other).stands,
      (draws tree (.itself tree)).boost x boosted⟩
  · rcases plain _ mem with same | plain
    · obtain ⟨rfl, rfl⟩ := Prod.mk.inj same
      obtain ⟨cause, stands, held⟩ := ih rest null
      have found : tree.toJson.at? [.field tree.kind, .field "query"] = some query.toJson := by
        rw [json]
        simp [Table.find?_cons, Leaf.boostFields, inside]
      exact ⟨cause, stands.below contains found, held⟩
    · exact absurd ⟨rest, null⟩ plain

/-- Every null in the JSON form of a query is a null term or a number that is not finite, and it is
admitted if all that the parts of the query draw on is. -/
theorem nullStands_of_nullAt (draws : ∀ part, tree.Contains part → part.Draws admitted)
    (h : tree.toJson.NullAt path) : ∃ cause, tree.NullStands path cause ∧ admitted cause := by
  induction tree using induction_on_parts generalizing path with
  | leaf predicate boost =>
    have own := draws _ (.itself _)
    obtain ⟨rest, rfl, null⟩ := Json.nullAt_single.mp h
    rcases Leaf.nullAt_body (own.leaf predicate boost rfl) null with
      ⟨x, rfl, other, rfl⟩ | ⟨field, values, index, rfl, shown, found, rfl⟩
    · exact ⟨some x, (OwnNull.boost rfl other).stands, own.boost x rfl⟩
    · exact ⟨none, (OwnNull.term shown found).stands,
        own.leaf _ boost rfl (List.mem_of_getElem? found)⟩
  | geo predicate =>
    obtain ⟨rest, rfl, null⟩ := Json.nullAt_single.mp h
    obtain ⟨x, held, own⟩ :=
      GeoPredicate.nullAt_body ((draws _ (.itself _)).geo predicate rfl) null
    exact ⟨some x, own.stands, held⟩
  | wrapper source =>
    obtain ⟨rest, rfl, null⟩ := Json.nullAt_single.mp h
    obtain ⟨rest, rfl, null⟩ := Json.nullAt_single.mp null
    exact absurd null (Json.not_nullAt_string _)
  | bool q ih =>
    obtain ⟨rest, rfl, null⟩ := Json.nullAt_single.mp h
    obtain ⟨must, should, mustNot, filter, minimum, boost⟩ := q
    rw [body, boolBody] at null
    rcases nullAt_boosted null with ⟨x, rfl, other, rfl⟩ | ⟨name, rest, value, rfl, mem, -, null⟩
    · exact ⟨some x, (OwnNull.boost rfl other).stands, (draws _ (.itself _)).boost x rfl⟩
    · obtain ⟨kind, ⟨⟩⟩ | ⟨n, ⟨⟩⟩ : (∃ kind, (name, value) = (ClauseKind.label kind, Json.array
            ((BoolQuery.clausesOf ⟨must, should, mustNot, filter, minimum, boost⟩ kind).map toJson)))
          ∨ ∃ n, (name, value) = ("minimum_should_match", Json.ofNat n) := by
        simp only [List.mem_append, jsonList_eq_map, List.mem_map] at mem
        rcases mem with (((mem | mem) | mem) | mem) | ⟨n, -, same⟩
        · exact .inl ⟨.must, mem_clauseFields mem⟩
        · exact .inl ⟨.should, mem_clauseFields mem⟩
        · exact .inl ⟨.mustNot, mem_clauseFields mem⟩
        · exact .inl ⟨.filter, mem_clauseFields mem⟩
        · exact .inr ⟨n, same.symm⟩
      · obtain ⟨index, rest, _, rfl, found, null⟩ := Json.nullAt_array.mp null
        rw [List.getElem?_map] at found
        obtain ⟨clause, listed, rfl⟩ := Option.map_eq_some_iff.mp found
        have mem := BoolQuery.mem_clauses_iff.mpr ⟨kind, List.mem_of_getElem? listed⟩
        obtain ⟨cause, stands, held⟩ :=
          ih clause mem (fun part within => draws part (.clause mem within)) null
        exact ⟨cause, stands.below (.of_clause mem) (at?_of_clause listed), held⟩
      · exact absurd null (Json.not_nullAt_ofNat n)
  | nested pathName query scoreMode boost ih =>
    refine nullStands_around query rfl rfl rfl ?_ ?_ (.nested (.itself query)) draws
      (fun path => ih fun part within => draws part (.nested within)) h
    · simp [toJson]
    · simp [toJson, Json.HasNull]
  | hasChild type query scoreMode innerHits boost ih =>
    refine nullStands_around query rfl rfl rfl ?_ ?_ (.related rfl not_false (.itself query)) draws
      (fun path => ih fun part within => draws part (.related rfl not_false within)) h
    · simp [toJson, innerHitsFields]
    · simp [toJson, innerHitsFields, Json.HasNull, or_imp, forall_and]
  | hasParent type query score innerHits boost ih =>
    refine nullStands_around query rfl rfl rfl ?_ ?_ (.related rfl not_false (.itself query)) draws
      (fun path => ih fun part within => draws part (.related rfl not_false within)) h
    · simp [toJson, innerHitsFields]
    · simp [toJson, innerHitsFields, Json.HasNull, or_imp, forall_and]

/-- A boost is written where it is said to be, whatever else there is. -/
theorem at?_boostPath {x : Double} (h : tree.boost? = some x) :
    tree.toJson.at? tree.boostPath = some (.ofDouble x) := by
  cases tree with
  | leaf predicate boost =>
    cases h
    cases predicate <;>
      simp [toJson, body, QueryTree.kind, boostPath, Leaf.kind, Leaf.heading, Leaf.body,
        Leaf.boostFields, Table.find?_cons]
  | bool q =>
    obtain ⟨must, should, mustNot, filter, minimum, boost⟩ := q
    cases h
    simp [toJson, body, QueryTree.kind, boostPath, boolBody, Leaf.boostFields, Table.find?_cons]
  | geo | wrapper => cases h
  | nested | hasChild | hasParent =>
    cases h
    simp [toJson, body, QueryTree.kind, boostPath, Leaf.boostFields, Table.find?_cons]

/-- There is a null where an own null is said to be. -/
theorem OwnNull.nullAt (h : tree.OwnNull path cause) : tree.toJson.NullAt path := by
  cases h with
  | @term field values boost index shown null =>
    have found : Table.last? field ([(field, Json.array (values.map (.ofOption .string)))]
        ++ Leaf.boostFields boost) = some (.array (values.map (.ofOption .string))) := by
      rcases shown with rfl | apart
      · simp [Leaf.boostFields]
      · simp [Leaf.boostFields, Ne.symm apart]
    simp only [Json.NullAt, toJson, body, QueryTree.kind, Leaf.kind, Leaf.body, Json.at?_object,
      Table.find?_cons, if_true, Option.bind_some, Json.at?_ofFields, found, Json.at?_array,
      List.getElem?_map, null]
    rfl
  | boost boosted other =>
    rw [Json.NullAt, at?_boostPath boosted, Json.ofDouble, other]
    rfl
  | @centre field radius centre method axis mem other =>
    have null : centre.toJson.NullAt [.field axis.1] := Location.nullAt_axis mem other
    simpa [Json.NullAt, toJson, body, QueryTree.kind, GeoPredicate.kind, GeoPredicate.body,
      Table.find?_cons] using null
  | @corner field name topLeft bottomRight corner axis is mem other =>
    have null : corner.toJson.NullAt [.field axis.1] := Location.nullAt_axis mem other
    rcases List.mem_pair.mp is with ⟨⟨⟩⟩ | ⟨⟨⟩⟩ <;>
      simpa [Json.NullAt, toJson, body, QueryTree.kind, GeoPredicate.kind, GeoPredicate.body,
        Table.find?_cons] using null
  | outline null mem other =>
    simpa [Json.NullAt, toJson, body, QueryTree.kind, GeoPredicate.kind, GeoPredicate.body,
      Table.find?_cons, Geometry.toJson] using null

theorem OwnNull.isFinite (h : tree.OwnNull path cause) : ∀ x ∈ cause, x.isFinite = false := by
  cases h with
  | term => exact nofun
  | boost _ other | centre _ other | corner _ _ other | outline _ _ other =>
    rintro _ ⟨⟩
    exact other

theorem NullStands.isFinite (h : tree.NullStands path cause) :
    ∀ x ∈ cause, x.isFinite = false := by
  obtain ⟨_, _, _, -, -, -, own⟩ := h
  exact own.isFinite

theorem NullStands.nullAt (h : tree.NullStands path cause) : tree.toJson.NullAt path := by
  obtain ⟨pre, part, rest, -, found, rfl, own⟩ := h
  exact (Json.at?_append found rest).trans own.nullAt

end QueryTree

end SearchCriteria
