import SearchCriteria.GeoFilter
import SearchCriteria.Proofs.Essence
import SearchCriteria.Proofs.Nulls
import SearchCriteria.Stored.Geometry

/-!
# Outlines of shapes

A filter on shapes hands the geometry it was given to the search engine as it is. What is written has
the name of the type and one more field, and if the coordinates are finite then reading it gives the
same geometry again. Types that have coordinates of the same form are told apart by their names.
-/

namespace SearchCriteria

open Json (Source)

namespace Json.Source

theorem ofJsonItems_eq_map (items : List Json) : ofJsonItems items = items.map ofJson := by
  induction items with
  | nil => rw [ofJsonItems, List.map_nil]
  | cons item rest ih => rw [ofJsonItems, ih, List.map_cons]

/-- A value is written so that reading gives it again. -/
def ReadsBack {α : Type} (read : Source → Option α) (write : α → Json) (a : α) : Prop :=
  read (ofJson (write a)) = some a

/-- A list reads back if its items do. -/
theorem ReadsBack.list {α : Type} {read : Source → Option α} {write : α → Json} {items : List α}
    (each : ∀ item ∈ items, ReadsBack read write item) :
    ReadsBack (toList? read) (fun items => .array (items.map write)) items := by
  rw [ReadsBack, ofJson, toList?, ofJsonItems_eq_map, List.map_map]
  induction items with
  | nil => rfl
  | cons item rest ih =>
    have first : read (ofJson (write item)) = some item := each item List.mem_cons_self
    rw [List.map_cons, List.mapM_cons, Function.comp_apply, first,
      ih fun item mem => each item (List.mem_cons_of_mem _ mem)]
    rfl

end Json.Source

open Json.Source (ReadsBack)

namespace Position

/-- Both numbers of a position are finite. -/
def IsFinite (p : Position) : Prop :=
  ∀ x ∈ p.numbers, x.isFinite = true

theorem IsFinite.readsBack {p : Position} (finite : p.IsFinite) : ReadsBack ofSource? toJson p := by
  have lon : p.lon.isFinite = true := finite _ (by simp [numbers])
  have lat : p.lat.isFinite = true := finite _ (by simp [numbers])
  simp [ReadsBack, toJson, Json.ofDouble, lon, lat, Json.Source.ofJson, Json.Source.ofJsonItems,
    ofSource?, Json.Source.toDouble?]

end Position

@[simp] theorem GeometryType.ofSource?_label (member : Bool) (type : GeometryType) :
    ofSource? member (.string type.label) = some type :=
  Named.ofName?_name type

namespace Geometry

/-- Every number of a geometry is finite. -/
def IsFinite (g : Geometry) : Prop :=
  ∀ x ∈ g.numbers, x.isFinite = true

theorem isFinite_iff_positions (g : Geometry) : g.IsFinite ↔ ∀ p ∈ g.positions, p.IsFinite := by
  simp only [IsFinite, Position.IsFinite, numbers, List.forall_mem_flatMap]

theorem isFinite_collection {members : List Geometry} :
    (collection members).IsFinite ↔ ∀ member ∈ members, member.IsFinite := by
  simp only [isFinite_iff_positions, positions, positionsOf_eq_flatMap, List.forall_mem_flatMap]

theorem memberList?_eq_mapM (items : List Source) :
    memberList? items = items.mapM (ofSource? true) := by
  induction items with
  | nil => rw [memberList?, List.mapM_nil]; rfl
  | cons item rest ih => rw [memberList?, ih, List.mapM_cons]

theorem members?_eq_toList? : members? = Json.Source.toList? (ofSource? true) := by
  funext source
  cases source <;> simp [members?, Json.Source.toList?, memberList?_eq_mapM]

theorem readsBack_line {positions : List Position} (finite : ∀ p ∈ positions, p.IsFinite) :
    ReadsBack lineOfSource? lineJson positions :=
  .list fun p mem => (finite p mem).readsBack

theorem readsBack_lines {lines : List (List Position)} (finite : ∀ p ∈ lines.flatten, p.IsFinite) :
    ReadsBack linesOfSource? linesJson lines :=
  .list fun _ mem => readsBack_line fun p mem' => finite p (List.mem_flatten_of_mem mem mem')

/-- What is not a collection is read from the coordinates by its type. -/
theorem ofSource?_toJson {member : Bool} {g : Geometry} (plain : g.type ≠ .collection) :
    ofSource? member (Source.ofJson g.toJson)
      = ofCoordinates? g.type (Source.ofJson g.content.2) := by
  cases g with
  | collection => exact absurd rfl plain
  | _ =>
    simp [toJson, fields, content, Json.Source.ofJson, Json.Source.ofJsonFields, ofSource?, theField?,
      type]

theorem ofSource?_toJson_collection {member : Bool} {members : List Geometry} :
    ofSource? member (Source.ofJson (collection members).toJson)
      = (Json.Source.toList? (ofSource? true)
          (Source.ofJson (.array (members.map toJson)))).map collection := by
  simp [toJson, fields, content, Json.Source.ofJson, Json.Source.ofJsonFields, ofSource?, theField?,
    type, memberFields, members?_eq_toList?, memberJson_eq_map]

/-- What holds of the geometries that are no collections, and of a collection if it holds of its
members, holds of all. -/
theorem induction_on_members {motive : Geometry → Prop}
    (plain : ∀ g : Geometry, g.type ≠ .collection → motive g)
    (collection : ∀ members, (∀ member ∈ members, motive member) → motive (.collection members)) :
    ∀ g, motive g
  | .collection members => collection members fun member _ =>
      induction_on_members plain collection member
  | .point _ | .multiPoint _ | .lineString _ | .multiLineString _ | .polygon _ | .multiPolygon _ =>
    plain _ GeometryType.noConfusion
termination_by g => sizeOf g
decreasing_by
  have := List.sizeOf_lt_of_mem ‹_›
  simp only [Geometry.collection.sizeOf_spec]
  omega

theorem ofCoordinates?_content {g : Geometry} (plain : g.type ≠ .collection)
    (finite : ∀ p ∈ g.positions, p.IsFinite) :
    ofCoordinates? g.type (Source.ofJson g.content.2) = some g := by
  cases g with
  | point p => exact congrArg (Option.map point) (finite p (List.mem_singleton_self p)).readsBack
  | multiPoint => exact congrArg (Option.map multiPoint) (readsBack_line finite)
  | lineString => exact congrArg (Option.map lineString) (readsBack_line finite)
  | multiLineString => exact congrArg (Option.map multiLineString) (readsBack_lines finite)
  | polygon => exact congrArg (Option.map polygon) (readsBack_lines finite)
  | multiPolygon polygons =>
    have each : ∀ lines ∈ polygons, ReadsBack linesOfSource? linesJson lines := fun lines mem =>
      readsBack_lines fun p mem' => by
        obtain ⟨line, inLines, inLine⟩ := List.mem_flatten.mp mem'
        exact finite p (List.mem_flatten_of_mem (List.mem_flatten_of_mem mem inLines) inLine)
    exact congrArg (Option.map multiPolygon) (ReadsBack.list each)
  | collection => exact absurd rfl plain

/-- A geometry reads back, wherever it stands. -/
theorem IsFinite.readsBack {g : Geometry} (finite : g.IsFinite) (member : Bool) :
    ReadsBack (ofSource? member) toJson g := by
  -- Members are read in another way than what contains them, which makes no difference to a name.
  induction g using induction_on_members generalizing member with
  | plain g plain =>
    rw [ReadsBack, ofSource?_toJson plain]
    exact ofCoordinates?_content plain ((isFinite_iff_positions g).mp finite)
  | collection members ih =>
    have each : ∀ member ∈ members, ReadsBack (ofSource? true) toJson member := fun member mem =>
      ih member mem (isFinite_collection.mp finite member mem) true
    rw [ReadsBack, ofSource?_toJson_collection]
    exact congrArg (Option.map collection) (ReadsBack.list each)

/-- Geometries with finite numbers that are written alike are the same. -/
theorem IsFinite.toJson_injective {g other : Geometry} (finite : g.IsFinite)
    (finiteOther : other.IsFinite) (same : g.toJson = other.toJson) : g = other := by
  have read : ofSource? false (Source.ofJson g.toJson) = some g := finite.readsBack false
  have readOther : ofSource? false (Source.ofJson other.toJson) = some other :=
    finiteOther.readsBack false
  rw [same, readOther] at read
  exact (Option.some.inj read).symm

end Geometry

/-! ## Geometries up to the form of their numbers -/

/-- A position with its numbers reduced. -/
def Position.reduced (p : Position) : Position :=
  { lon := p.lon.reduced, lat := p.lat.reduced }

theorem Position.toJson_reduced (p : Position) : p.reduced.toJson = p.toJson.reduced := by
  simp [toJson, reduced]

theorem Position.isFinite_reduced (p : Position) : p.reduced.IsFinite ↔ p.IsFinite := by
  simp [IsFinite, numbers, reduced]

namespace Geometry

mutual

/-- A geometry with its numbers reduced. -/
def reduced : Geometry → Geometry
  | .point position => .point position.reduced
  | .multiPoint positions => .multiPoint (positions.map Position.reduced)
  | .lineString positions => .lineString (positions.map Position.reduced)
  | .multiLineString lines => .multiLineString (lines.map fun line => line.map Position.reduced)
  | .polygon rings => .polygon (rings.map fun ring => ring.map Position.reduced)
  | .multiPolygon polygons =>
    .multiPolygon (polygons.map fun rings => rings.map fun ring => ring.map Position.reduced)
  | .collection members => .collection (reducedMembers members)

def reducedMembers : List Geometry → List Geometry
  | [] => []
  | member :: rest => reduced member :: reducedMembers rest

end

theorem reducedMembers_eq_map (members : List Geometry) :
    reducedMembers members = members.map reduced := by
  induction members with
  | nil => rw [reducedMembers, List.map_nil]
  | cons member rest ih => rw [reducedMembers, ih, List.map_cons]

theorem toJson_reduced (g : Geometry) : g.reduced.toJson = g.toJson.reduced := by
  induction g using induction_on_members with
  | plain g plain =>
    cases g with
    | collection => exact absurd rfl plain
    | _ =>
      simp [reduced, toJson, fields, content, type, lineJson, linesJson, Json.reducedField,
        Position.toJson_reduced]
  | collection members ih =>
    have each : (members.map reduced).map toJson = (members.map toJson).map Json.reduced := by
      rw [List.map_map, List.map_map]
      exact List.map_congr_left ih
    simp only [reduced, toJson, fields, content, type, memberJson_eq_map, reducedMembers_eq_map, each,
      Json.reduced_object, Json.reduced_array, Json.reducedField, Json.reduced_string, List.map_cons,
      List.map_nil]

theorem positions_reduced (g : Geometry) : g.reduced.positions = g.positions.map Position.reduced := by
  induction g using induction_on_members with
  | plain g plain =>
    cases g with
    | collection => exact absurd rfl plain
    | _ => simp [reduced, positions]
  | collection members ih =>
    simp only [reduced, positions, reducedMembers_eq_map, positionsOf_eq_flatMap, List.flatMap_map,
      List.map_flatMap]
    exact List.flatMap_congr ih

theorem isFinite_reduced {g : Geometry} : g.reduced.IsFinite ↔ g.IsFinite := by
  simp only [isFinite_iff_positions, positions_reduced, List.forall_mem_map,
    Position.isFinite_reduced]

/-- Geometries with finite numbers whose outlines have the same values have the same values. -/
theorem IsFinite.reduced_eq {g other : Geometry} (finite : g.IsFinite)
    (finiteOther : other.IsFinite) (same : g.toJson.reduced = other.toJson.reduced) :
    g.reduced = other.reduced :=
  (isFinite_reduced.mpr finite).toJson_injective (isFinite_reduced.mpr finiteOther)
    (by rw [toJson_reduced, toJson_reduced, same])

end Geometry

/-! ## Filters on shapes -/

/-- The path to the shape in the JSON form of a filter on shapes. -/
def shapePath (field : String) : List JsonStep :=
  [.field "geo_shape", .field field, .field "shape"]

theorem GeoFilter.build_shape {op : Operator} {relation : ShapeRelation} {field : String}
    (shapes : GeoFilter.relation op = .ok relation) (g : Geometry) :
    GeoFilter.build field ⟨op, .geometry g⟩ = .ok (.shape field g.fields relation) := by
  cases op <;> cases shapes <;> rfl

theorem GeoPredicate.at?_shapePath (field : String) (outline : List (String × Json))
    (relation : ShapeRelation) :
    (QueryTree.geo (.shape field outline relation)).toJson.at? (shapePath field)
      = some (.object outline) := by
  simp [shapePath, QueryTree.toJson, QueryTree.kind, QueryTree.body, kind, body, Table.find?_cons]

/-- A geometry with finite numbers is handed on as it is. Its outline has the name of its type and
one more field, it reads back, and a filter on shapes writes it unchanged. So geometries that differ
have outlines that differ, also when numbers are compared by their values. -/
theorem outlines_verbatim (g : Geometry) (finite : g.IsFinite) :
    g.fields.map Prod.fst
        = [if g.type = .collection then "geometries" else "coordinates", "type"] ∧
      Table.find? "type" g.fields = some (.string g.type.label) ∧
      Geometry.ofSource? false (Source.ofJson (.object g.fields)) = some g ∧
      (∀ op ∈ [Operator.shapeIntersects, .shapeDisjoint, .shapeWithin, .shapeContains],
        ∀ field, ∃ predicate, GeoFilter.build field ⟨op, .geometry g⟩ = .ok predicate ∧
          (QueryTree.geo predicate).toJson.at? (shapePath field) = some (.object g.fields)) ∧
      ∀ other : Geometry, other.IsFinite →
        (g ≠ other → g.fields ≠ other.fields) ∧
        (g.reduced ≠ other.reduced →
          (Json.object g.fields).reduced ≠ (Json.object other.fields).reduced) := by
  refine ⟨?_, ?_, finite.readsBack false, ?_, ?_⟩
  · cases g <;> rfl
  · cases g <;> simp [Geometry.fields, Geometry.content, Table.find?_cons]
  · intro op shapes field
    have asks : ∃ relation, GeoFilter.relation op = .ok relation := by
      simp only [List.mem_cons, List.not_mem_nil, or_false] at shapes
      rcases shapes with rfl | rfl | rfl | rfl <;> exact ⟨_, rfl⟩
    obtain ⟨relation, asks⟩ := asks
    exact ⟨_, GeoFilter.build_shape asks g, GeoPredicate.at?_shapePath field g.fields relation⟩
  · intro other finiteOther
    constructor
    · intro differ same
      exact differ (finite.toJson_injective finiteOther (congrArg Json.object same))
    · intro differ same
      exact differ (finite.reduced_eq finiteOther same)

/-- A collection in a collection, with empty lists of coordinates. -/
def nestedOutline : Geometry :=
  .collection [.multiPoint [], .collection [.polygon [[], []], .collection []],
    .point ⟨.zero true, .finite false 3 (-1)⟩]

theorem outlines_verbatim_nested : nestedOutline.IsFinite ∧
    Geometry.ofSource? false (Source.ofJson (.object nestedOutline.fields)) = some nestedOutline := by
  have finite : ∀ x ∈ nestedOutline.numbers, x.isFinite = true := by decide
  exact ⟨finite, (outlines_verbatim nestedOutline finite).2.2.1⟩

end SearchCriteria
