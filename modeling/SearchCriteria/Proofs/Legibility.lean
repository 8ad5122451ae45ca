import SearchCriteria.Proofs.Base64
import SearchCriteria.Proofs.Essence
import SearchCriteria.Proofs.Nulls

/-!
# What is told from a written predicate

A field that is written for a part of a predicate is found under its own name, so the part can be told
from the JSON form of the predicate. This fails where the name is taken: a boost takes the place of
terms for a field of that name, and the field of a distance takes the place of the radius or of the
method if it has the name of these. It fails as well for numbers that are not finite, all of which
become null.
-/

namespace SearchCriteria

theorem Named.name_inj {α : Type} [Named α] {a b : α} : name a = name b ↔ a = b := by
  constructor
  · intro same
    exact Option.some.inj (by rw [← ofName?_name a, same, ofName?_name b])
  · exact congrArg name

@[simp] theorem Connective.label_inj {a b : Connective} : a.label = b.label ↔ a = b := by
  change Named.name a = Named.name b ↔ a = b
  exact Named.name_inj

@[simp] theorem ScoreMode.label_inj {a b : ScoreMode} : a.label = b.label ↔ a = b := by
  change Named.name a = Named.name b ↔ a = b
  exact Named.name_inj

@[simp] theorem DistanceMethod.label_inj {a b : DistanceMethod} : a.label = b.label ↔ a = b := by
  change Named.name a = Named.name b ↔ a = b
  exact Named.name_inj

@[simp] theorem ShapeRelation.label_inj {a b : ShapeRelation} : a.label = b.label ↔ a = b := by
  change Named.name a = Named.name b ↔ a = b
  exact Named.name_inj

namespace Json

theorem last?_eq {fields fields' : List (String × Json)} (h : ofFields fields = ofFields fields')
    (key : String) : Table.last? key fields = Table.last? key fields' := by
  rw [← Table.find?_ofList, ← Table.find?_ofList]
  exact congrArg (Table.find? key) (Json.object.inj h)

theorem ofDouble_of_isFinite {x : Double} (finite : x.isFinite) : ofDouble x = .number x :=
  if_pos finite

@[simp] theorem string_injective : Function.Injective string :=
  fun _ _ => string.inj

theorem ofNat_injective : Function.Injective ofNat :=
  fun _ _ h => Int.ofNat_inj.mp (Json.integer.inj h)

theorem map_string_inj {texts texts' : List String} :
    texts.map string = texts'.map string ↔ texts = texts' :=
  (List.map_injective_iff.mpr string_injective).eq_iff

end Json

/-- Finite boosts are told from what is written for them. -/
theorem boost_eq {boost boost' : Option Double} (finite : ∀ x ∈ boost, x.isFinite)
    (finite' : ∀ x ∈ boost', x.isFinite) (h : boost.map Json.ofDouble = boost'.map Json.ofDouble) :
    boost = boost' := by
  cases boost with
  | none => cases boost' with
    | none => rfl
    | some _ => cases h
  | some x => cases boost' with
    | none => cases h
    | some y =>
      rw [Option.map_some, Option.map_some, Json.ofDouble_of_isFinite (finite x rfl),
        Json.ofDouble_of_isFinite (finite' y rfl)] at h
      rw [Json.number.inj (Option.some.inj h)]

/-- An object tells a finite boost from its other fields, if none of them has that name. -/
theorem boosted_inj {fields fields' : List (String × Json)} {boost boost' : Option Double}
    (plain : Table.last? "boost" fields = none) (plain' : Table.last? "boost" fields' = none)
    (finite : ∀ x ∈ boost, x.isFinite) (finite' : ∀ x ∈ boost', x.isFinite)
    (h : Json.ofFields (fields ++ Leaf.boostFields boost)
      = Json.ofFields (fields' ++ Leaf.boostFields boost')) :
    boost = boost' ∧ ∀ key, Table.last? key fields = Table.last? key fields' := by
  have same := Json.last?_eq h
  simp only [Table.last?_append, Leaf.boostFields, Table.last?_optional] at same
  have boosts : boost = boost' := boost_eq finite finite' (by simpa [plain, plain'] using same "boost")
  refine ⟨boosts, fun key => ?_⟩
  by_cases own : "boost" = key
  · rw [← own, plain, plain']
  · simpa [own] using same key

theorem headed_inj {field field' : String} {fields fields' : List (String × Json)}
    {boost boost' : Option Double} (plain : Table.last? "boost" fields = none)
    (plain' : Table.last? "boost" fields' = none) (finite : ∀ x ∈ boost, x.isFinite)
    (finite' : ∀ x ∈ boost', x.isFinite)
    (h : Json.object [(field, .ofFields (fields ++ Leaf.boostFields boost))]
      = Json.object [(field', .ofFields (fields' ++ Leaf.boostFields boost'))]) :
    field = field' ∧ boost = boost' ∧ ∀ key, Table.last? key fields = Table.last? key fields' := by
  simp only [Json.object.injEq, List.cons.injEq, Prod.mk.injEq, and_true] at h
  exact ⟨h.1, boosted_inj plain plain' finite finite' h.2⟩

theorem Bounds.last?_boost_fields (b : Bounds) : Table.last? "boost" b.fields = none := by
  obtain ⟨gt, gte, lt, lte⟩ := b
  cases gt <;> cases gte <;> cases lt <;> cases lte <;> simp [fields]

/-- Bounds are told from the fields that are written for them. -/
theorem Bounds.fields_inj {b b' : Bounds}
    (h : ∀ key, Table.last? key b.fields = Table.last? key b'.fields) : b = b' := by
  have read (b : Bounds) : b = ⟨Table.last? "gt" b.fields, Table.last? "gte" b.fields,
      Table.last? "lt" b.fields, Table.last? "lte" b.fields⟩ := by
    obtain ⟨gt, gte, lt, lte⟩ := b
    cases gt <;> cases gte <;> cases lt <;> cases lte <;> simp [fields]
  rw [read b, read b', h, h, h, h]

namespace Json

theorem ofOption_string_injective : Function.Injective (ofOption string) := by
  intro value value' h
  cases value <;> cases value' <;> cases h <;> rfl

end Json

namespace Leaf

/-- The terms of a predicate are written, unless a boost takes their place. -/
def Shown (boost : Option Double) : Leaf → Prop
  | .terms field _ => boost = none ∨ field ≠ "boost"
  | _ => True

theorem Shown.essence {predicate : Leaf} {boost : Option Double} (h : predicate.Shown boost) :
    predicate.essence.Shown (boost.map Double.reduced) := by
  cases predicate with
  | terms => exact h.imp_left (congrArg (Option.map Double.reduced))
  | matchAll | queryString | matchText | fuzzy | range | fieldExists | wildcard | regexp => trivial

/-- Terms and a boost that are both written are told apart. -/
theorem terms_inj {field field' : String} {values values' : List (Option String)}
    {boost boost' : Option Double} (finite : ∀ x ∈ boost, x.isFinite)
    (finite' : ∀ x ∈ boost', x.isFinite) (shown : (terms field values).Shown boost)
    (shown' : (terms field' values').Shown boost')
    (h : (terms field values).body boost = (terms field' values').body boost') :
    terms field values = terms field' values' ∧ boost = boost' := by
  have same (key : String) :
      (if "boost" = key then boost.map Json.ofDouble else none).or
          (if field = key then some (Json.array (values.map (.ofOption .string))) else none)
        = (if "boost" = key then boost'.map Json.ofDouble else none).or
          (if field' = key then some (Json.array (values'.map (.ofOption .string))) else none) := by
    simpa [boostFields] using Json.last?_eq h key
  have boosts : boost = boost' := by
    have own := same "boost"
    cases boost with
    | none => cases boost' with
      | none => rfl
      | some y =>
        simp [Json.ofDouble_of_isFinite (finite' y rfl)] at own
    | some x => cases boost' with
      | none =>
        simp [Json.ofDouble_of_isFinite (finite x rfl)] at own
      | some y =>
        simpa [Json.ofDouble_of_isFinite (finite x rfl), Json.ofDouble_of_isFinite (finite' y rfl)]
          using own
  subst boosts
  have free : (if "boost" = field then boost.map Json.ofDouble else none) = none := by
    rcases shown with rfl | apart
    · simp
    · rw [if_neg (Ne.symm apart)]
  have listed := same field
  rw [free, Option.none_or, Option.none_or, if_pos rfl] at listed
  split at listed
  · next fields =>
    obtain rfl : values = values' := by
      simpa [(List.map_injective_iff.mpr Json.ofOption_string_injective).eq_iff] using listed
    rw [fields]
    exact ⟨rfl, rfl⟩
  · cases listed

/-- A predicate and its boost are told from what is written for them. -/
theorem body_inj {predicate predicate' : Leaf} {boost boost' : Option Double}
    (finite : ∀ x ∈ boost, x.isFinite) (finite' : ∀ x ∈ boost', x.isFinite)
    (shown : predicate.Shown boost) (shown' : predicate'.Shown boost')
    (kinds : predicate.kind = predicate'.kind) (h : predicate.body boost = predicate'.body boost') :
    predicate = predicate' ∧ boost = boost' := by
  cases predicate with
  | matchAll => cases predicate' with
    | matchAll => exact ⟨rfl, (boosted_inj rfl rfl finite finite' h).1⟩
    | _ => simp [kind] at kinds
  | queryString query fields operator analyzeWildcard => cases predicate' with
    | queryString query' fields' operator' analyzeWildcard' =>
      obtain ⟨rfl, same⟩ := boosted_inj (by cases analyzeWildcard <;> simp)
        (by cases analyzeWildcard' <;> simp) finite finite' h
      obtain rfl : analyzeWildcard = analyzeWildcard' := by
        have wildcards := same "analyze_wildcard"
        cases analyzeWildcard <;> cases analyzeWildcard' <;> simp at wildcards ⊢
      obtain rfl : query = query' := by
        cases analyzeWildcard <;> simpa using same "query"
      obtain rfl : fields = fields' := by
        cases analyzeWildcard <;> simpa [Json.ofTexts, Json.map_string_inj] using same "fields"
      obtain rfl : operator = operator' := by
        cases analyzeWildcard <;> simpa using same "default_operator"
      exact ⟨rfl, rfl⟩
    | _ => simp [kind] at kinds
  | matchText field query operator => cases predicate' with
    | matchText field' query' operator' =>
      obtain ⟨rfl, rfl, same⟩ := headed_inj (by simp) (by simp) finite finite' h
      obtain rfl : query = query' := by simpa using same "query"
      obtain rfl : operator = operator' := by simpa using same "operator"
      exact ⟨rfl, rfl⟩
    | _ => simp [kind] at kinds
  | fuzzy field value fuzziness => cases predicate' with
    | fuzzy field' value' fuzziness' =>
      obtain ⟨rfl, rfl, same⟩ := headed_inj (by simp) (by simp) finite finite' h
      obtain rfl : value = value' := by simpa using same "value"
      obtain rfl : fuzziness = fuzziness' := by
        simpa [(Option.map_injective Json.string_injective).eq_iff] using same "fuzziness"
      exact ⟨rfl, rfl⟩
    | _ => simp [kind] at kinds
  | range field bounds => cases predicate' with
    | range field' bounds' =>
      obtain ⟨rfl, rfl, same⟩ := headed_inj bounds.last?_boost_fields bounds'.last?_boost_fields
        finite finite' h
      rw [Bounds.fields_inj same]
      exact ⟨rfl, rfl⟩
    | _ => simp [kind] at kinds
  | terms field values => cases predicate' with
    | terms field' values' => exact terms_inj finite finite' shown shown' h
    | _ => simp [kind] at kinds
  | fieldExists field => cases predicate' with
    | fieldExists field' =>
      obtain ⟨rfl, same⟩ := boosted_inj (by simp) (by simp) finite finite' h
      obtain rfl : field = field' := by simpa using same "field"
      exact ⟨rfl, rfl⟩
    | _ => simp [kind] at kinds
  | wildcard field pattern => cases predicate' with
    | wildcard field' pattern' =>
      obtain ⟨rfl, rfl, same⟩ := headed_inj (by simp) (by simp) finite finite' h
      obtain rfl : pattern = pattern' := by simpa using same "value"
      exact ⟨rfl, rfl⟩
    | _ => simp [kind] at kinds
  | regexp field pattern => cases predicate' with
    | regexp field' pattern' =>
      obtain ⟨rfl, rfl, same⟩ := headed_inj (by simp) (by simp) finite finite' h
      obtain rfl : pattern = pattern' := by simpa using same "value"
      exact ⟨rfl, rfl⟩
    | _ => simp [kind] at kinds

end Leaf

theorem InnerHits.toJson_injective : Function.Injective InnerHits.toJson := by
  intro hits hits' h
  obtain ⟨name, start, size⟩ := hits
  obtain ⟨name', start', size'⟩ := hits'
  have same := Json.last?_eq h
  obtain rfl : name = name' := by
    simpa [(Option.map_injective Json.string_injective).eq_iff] using same "name"
  obtain rfl : start = start' := by
    simpa [(Option.map_injective Json.ofNat_injective).eq_iff] using same "from"
  obtain rfl : size = size' := by
    simpa [(Option.map_injective Json.ofNat_injective).eq_iff] using same "size"
  rfl

/-- The point of a location that is written as such. -/
def Location.point? : Location → Option GeoPoint
  | .latLon point => some point
  | .text _ => none
  | .geohash _ => none

def GeoPoint.IsFinite (point : GeoPoint) : Prop :=
  point.lat.isFinite ∧ point.lon.isFinite

/-- A location is told from what is written for it, but a geohash is not told from a text. -/
theorem Location.essence_eq {location location' : Location}
    (finite : ∀ point ∈ location.point?, point.IsFinite)
    (finite' : ∀ point ∈ location'.point?, point.IsFinite)
    (h : location.essence.toJson = location'.essence.toJson) :
    location.essence = location'.essence := by
  have written (point : GeoPoint) (finite : point.IsFinite) :
      (Location.latLon point).essence.toJson
        = .object [("lat", .number point.lat.reduced), ("lon", .number point.lon.reduced)] := by
    simp [essence, toJson, GeoPoint.toJson, Json.ofDouble_of_isFinite, finite.1, finite.2]
  cases location with
  | latLon point => cases location' with
    | latLon point' =>
      rw [written point (finite point rfl), written point' (finite' point' rfl)] at h
      simpa [essence] using h
    | text | geohash => simp [essence, toJson, GeoPoint.toJson] at h
  | text | geohash => cases location' with
    | latLon => simp [essence, toJson, GeoPoint.toJson] at h
    | text | geohash => simpa [essence, toJson] using h

namespace GeoPredicate

/-- The points of a predicate that are written as such. -/
def points : GeoPredicate → List GeoPoint
  | .distance _ centre _ _ => centre.point?.toList
  | .boundingBox _ topLeft bottomRight => topLeft.point?.toList ++ bottomRight.point?.toList
  | .shape .. => []

/-- The field of a distance has a name of its own. -/
def Shown : GeoPredicate → Prop
  | .distance field _ _ _ => field ≠ "distance" ∧ field ≠ "distance_type"
  | _ => True

/-- A predicate is told from what is written for it, up to what is not told of its locations. -/
theorem essence_eq {predicate predicate' : GeoPredicate}
    (finite : ∀ point ∈ predicate.points, point.IsFinite)
    (finite' : ∀ point ∈ predicate'.points, point.IsFinite) (shown : predicate.Shown)
    (shown' : predicate'.Shown) (kinds : predicate.kind = predicate'.kind)
    (h : predicate.essence.body = predicate'.essence.body) :
    predicate.essence = predicate'.essence := by
  cases predicate with
  | distance field centre radius method => cases predicate' with
    | distance field' centre' radius' method' =>
      have same := Json.last?_eq h
      obtain ⟨apart, apart'⟩ := shown
      obtain ⟨other, other'⟩ := shown'
      obtain rfl : radius = radius' := by simpa [apart, other] using same "distance"
      obtain rfl : method = method' := by simpa [apart', other'] using same "distance_type"
      have centres := same field
      by_cases fields : field' = field
      · have located : centre.essence.toJson = centre'.essence.toJson := by
          simpa [fields] using centres
        rw [essence, essence, fields, Location.essence_eq (by simpa [points] using finite)
          (by simpa [points] using finite') located]
      · simp [fields, Ne.symm apart, Ne.symm apart'] at centres
    | _ => simp [kind] at kinds
  | boundingBox field topLeft bottomRight => cases predicate' with
    | boundingBox field' topLeft' bottomRight' =>
      simp only [points, List.mem_append, Option.mem_toList] at finite finite'
      have corners : field = field' ∧ bottomRight.essence.toJson = bottomRight'.essence.toJson ∧
          topLeft.essence.toJson = topLeft'.essence.toJson := by
        simpa [essence, body] using h
      obtain ⟨rfl, below, above⟩ := corners
      rw [essence, essence,
        Location.essence_eq (fun p is => finite p (.inl is)) (fun p is => finite' p (.inl is)) above,
        Location.essence_eq (fun p is => finite p (.inr is)) (fun p is => finite' p (.inr is)) below]
    | _ => simp [kind] at kinds
  | shape field outline relation => cases predicate' with
    | shape field' outline' relation' =>
      have parts : field = field' ∧ relation = relation' ∧
          outline.map Json.reducedField = outline'.map Json.reducedField := by
        simpa [essence, body] using h
      obtain ⟨rfl, rfl, outlines⟩ := parts
      rw [essence, essence, outlines]
    | _ => simp [kind] at kinds

end GeoPredicate

end SearchCriteria
