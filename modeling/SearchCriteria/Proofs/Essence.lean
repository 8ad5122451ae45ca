import SearchCriteria.Proofs.JsonPath

/-!
# What a written query tells

Two numbers are compared by their values: there are two zeros, and a number can be written with more
or fewer bits. JSON values are compared by the values of their numbers. The essence of a query is what
is left of it when it is written and its numbers are compared so, whatever it is: every number stands
for its value, and a geohash is as good as any other text.
-/

namespace SearchCriteria

namespace Double

/-- The value of a finite number. -/
def value? : Double → Option Dyadic
  | .finite negative significand exponent =>
    some (.ofIntWithPrec (signed negative significand) (-exponent))
  | .infinite _ => none
  | .nan => none

/-- The number of a value. Its significand is odd unless it is zero, and zero has no sign. -/
def ofValue : Dyadic → Double
  | .zero => zero false
  | .ofOdd n k _ => .finite (n < 0) n.natAbs (-k)

/-- One of the numbers of the same value. -/
def reduced (x : Double) : Double :=
  match x.value? with
  | some value => ofValue value
  | none => x

theorem value?_ofValue (value : Dyadic) : (ofValue value).value? = some value := by
  cases value with
  | zero => rfl
  | ofOdd n k odd =>
    have positive : n ≠ 0 := by omega
    have same : signed (n < 0) n.natAbs = n := by
      by_cases negative : n < 0
      · rw [decide_eq_true negative, signed, if_pos rfl]
        omega
      · rw [decide_eq_false negative, signed, if_neg Bool.false_ne_true]
        omega
    simp only [ofValue, value?, same, Dyadic.ofIntWithPrec, dif_neg positive]
    simp [Int.trailingZeros_eq_zero_of_mod_eq odd]

theorem isFinite_eq_isSome_value? (x : Double) : x.isFinite = x.value?.isSome := by
  cases x <;> rfl

@[simp] theorem value?_reduced (x : Double) : x.reduced.value? = x.value? := by
  unfold reduced
  split
  · next value same => rw [value?_ofValue, same]
  · rfl

@[simp] theorem isFinite_reduced (x : Double) : x.reduced.isFinite = x.isFinite := by
  simp [isFinite_eq_isSome_value?]

/-- Two finite numbers are the same once they are reduced if they are equal as rational numbers. -/
theorem reduced_finite_eq_iff {negative negative' : Bool} {significand significand' : Nat}
    {exponent exponent' : Int} :
    (finite negative significand exponent).reduced
        = (finite negative' significand' exponent').reduced ↔
      (signed negative significand : Rat) * 2 ^ exponent
        = (signed negative' significand' : Rat) * 2 ^ exponent' := by
  have told : (finite negative significand exponent).reduced
      = (finite negative' significand' exponent').reduced ↔
        (finite negative significand exponent).value?
          = (finite negative' significand' exponent').value? := by
    constructor
    · intro same
      rw [← value?_reduced, same, value?_reduced]
    · intro same
      simp only [reduced, same]
      rfl
  rw [told, value?, value?, Option.some_inj, ← Dyadic.toRat_inj,
    Dyadic.toRat_ofIntWithPrec_eq_mul_two_pow, Dyadic.toRat_ofIntWithPrec_eq_mul_two_pow,
    Int.neg_neg, Int.neg_neg]

end Double

namespace Table

variable {α β : Type}

/-- A table of values that are made of others is made of the table of these. -/
theorem ofList_map (f : α → β) (entries : List (String × α)) :
    ofList (entries.map fun entry => (entry.1, f entry.2))
      = (ofList entries).map fun entry => (entry.1, f entry.2) := by
  have inserted (key : String) (value : α) (table : List (String × α)) :
      insert key (f value) (table.map fun entry => (entry.1, f entry.2))
        = (insert key value table).map fun entry => (entry.1, f entry.2) := by
    induction table with
    | nil => rfl
    | cons entry rest ih =>
      rw [List.map_cons, insert, insert, ih]
      split
      · rfl
      · split <;> rfl
  have folded (table : List (String × α)) :
      (entries.map fun entry => (entry.1, f entry.2)).foldl
          (fun table entry => insert entry.1 entry.2 table)
          (table.map fun entry => (entry.1, f entry.2))
        = (entries.foldl (fun table entry => insert entry.1 entry.2 table) table).map
          fun entry => (entry.1, f entry.2) := by
    induction entries generalizing table with
    | nil => rfl
    | cons entry rest ih => rw [List.map_cons, List.foldl_cons, List.foldl_cons, inserted, ih]
  exact folded []

end Table

namespace Json

mutual

/-- A JSON value in which every number is reduced. -/
def reduced : Json → Json
  | .null => .null
  | .bool value => .bool value
  | .integer value => .integer value
  | .number value => .number value.reduced
  | .string value => .string value
  | .array items => .array (reducedItems items)
  | .object fields => .object (reducedFields fields)

def reducedItems : List Json → List Json
  | [] => []
  | item :: rest => reduced item :: reducedItems rest

def reducedFields : List (String × Json) → List (String × Json)
  | [] => []
  | (name, value) :: rest => (name, reduced value) :: reducedFields rest

end

/-- A field with its value reduced. -/
def reducedField (field : String × Json) : String × Json :=
  (field.1, field.2.reduced)

theorem reducedItems_eq_map (items : List Json) : reducedItems items = items.map reduced := by
  induction items with
  | nil => rw [reducedItems, List.map_nil]
  | cons item rest ih => rw [reducedItems, ih, List.map_cons]

theorem reducedFields_eq_map (fields : List (String × Json)) :
    reducedFields fields = fields.map reducedField := by
  induction fields with
  | nil => rw [reducedFields, List.map_nil]
  | cons field rest ih => rw [reducedFields, ih, List.map_cons, reducedField]

@[simp] theorem reduced_null : null.reduced = null := by rw [reduced]

@[simp] theorem reduced_bool (value : Bool) : (bool value).reduced = bool value := by rw [reduced]

@[simp] theorem reduced_string (value : String) : (string value).reduced = string value := by
  rw [reduced]

@[simp] theorem reduced_ofNat (n : Nat) : (ofNat n).reduced = ofNat n := by rw [ofNat, reduced]

@[simp] theorem reduced_array (items : List Json) :
    (array items).reduced = array (items.map reduced) := by
  rw [reduced, reducedItems_eq_map]

@[simp] theorem reduced_object (fields : List (String × Json)) :
    (object fields).reduced = object (fields.map reducedField) := by
  rw [reduced, reducedFields_eq_map]

@[simp] theorem reduced_ofFields (fields : List (String × Json)) :
    (ofFields fields).reduced = ofFields (fields.map reducedField) := by
  rw [ofFields, ofFields, reduced_object]
  exact congrArg object (Table.ofList_map reduced fields).symm

@[simp] theorem reduced_ofTexts (texts : List String) : (ofTexts texts).reduced = ofTexts texts := by
  simp [ofTexts, Function.comp_def]

@[simp] theorem reduced_ofOption_string (value : Option String) :
    (ofOption string value).reduced = ofOption string value := by
  cases value <;> simp [ofOption]

@[simp] theorem reduced_ofDouble (x : Double) : (ofDouble x).reduced = ofDouble x.reduced := by
  unfold ofDouble
  rw [Double.isFinite_reduced]
  split
  · rw [reduced]
  · rw [reduced]

end Json

/-- Bounds in which every number is reduced. -/
def Bounds.essence (b : Bounds) : Bounds :=
  { gt := b.gt.map Json.reduced, gte := b.gte.map Json.reduced, lt := b.lt.map Json.reduced
    lte := b.lte.map Json.reduced }

def Leaf.essence : Leaf → Leaf
  | .range field bounds => .range field bounds.essence
  | leaf => leaf

/-- A location as it is read: a geohash is a text. -/
def Location.essence : Location → Location
  | .latLon point => .latLon { lat := point.lat.reduced, lon := point.lon.reduced }
  | .text written => .text written
  | .geohash letters => .text letters

def GeoPredicate.essence : GeoPredicate → GeoPredicate
  | .distance field centre radius method => .distance field centre.essence radius method
  | .boundingBox field topLeft bottomRight => .boundingBox field topLeft.essence bottomRight.essence
  | .shape field outline relation => .shape field (outline.map Json.reducedField) relation

mutual

/-- A query with its numbers reduced and its geohashes as texts. -/
def QueryTree.essence : QueryTree → QueryTree
  | .leaf predicate boost => .leaf predicate.essence (boost.map Double.reduced)
  | .geo predicate => .geo predicate.essence
  | .wrapper source => .wrapper source
  | .bool query => .bool query.essence
  | .nested path query scoreMode boost =>
    .nested path query.essence scoreMode (boost.map Double.reduced)
  | .hasChild type query scoreMode innerHits boost =>
    .hasChild type query.essence scoreMode innerHits (boost.map Double.reduced)
  | .hasParent type query score innerHits boost =>
    .hasParent type query.essence score innerHits (boost.map Double.reduced)

def BoolQuery.essence : BoolQuery → BoolQuery
  | ⟨must, should, mustNot, filter, minimumShouldMatch, boost⟩ =>
    ⟨essences must, essences should, essences mustNot, essences filter, minimumShouldMatch,
      boost.map Double.reduced⟩

def essences : List QueryTree → List QueryTree
  | [] => []
  | query :: rest => query.essence :: essences rest

end

theorem essences_eq_map (queries : List QueryTree) :
    essences queries = queries.map QueryTree.essence := by
  induction queries with
  | nil => rw [essences, List.map_nil]
  | cons query rest ih => rw [essences, ih, List.map_cons]

@[simp] theorem Leaf.kind_essence (predicate : Leaf) : predicate.essence.kind = predicate.kind := by
  cases predicate <;> rfl

@[simp] theorem GeoPredicate.kind_essence (predicate : GeoPredicate) :
    predicate.essence.kind = predicate.kind := by
  cases predicate <;> rfl

@[simp] theorem QueryTree.kind_essence (tree : QueryTree) : tree.essence.kind = tree.kind := by
  cases tree <;> simp [essence, kind]

theorem Bounds.fields_essence (b : Bounds) : b.essence.fields = b.fields.map Json.reducedField := by
  obtain ⟨gt, gte, lt, lte⟩ := b
  cases gt <;> cases gte <;> cases lt <;> cases lte <;> rfl

@[simp] theorem Leaf.map_boostFields (boost : Option Double) :
    (boostFields boost).map Json.reducedField = boostFields (boost.map Double.reduced) := by
  cases boost <;> simp [boostFields, Json.reducedField]

theorem Leaf.body_essence (predicate : Leaf) (boost : Option Double) :
    predicate.essence.body (boost.map Double.reduced) = (predicate.body boost).reduced := by
  cases predicate with
  | matchAll => simp [essence, body]
  | queryString query fields operator analyzeWildcard =>
    cases analyzeWildcard <;> simp [essence, body, Json.reducedField]
  | matchText => simp [essence, body, Json.reducedField]
  | fuzzy field value fuzziness =>
    cases fuzziness <;> simp [essence, body, Json.reducedField]
  | range => simp [essence, body, Json.reducedField, Bounds.fields_essence]
  | terms => simp [essence, body, Json.reducedField, Function.comp_def]
  | fieldExists => simp [essence, body, Json.reducedField]
  | wildcard => simp [essence, body, Json.reducedField]
  | regexp => simp [essence, body, Json.reducedField]

theorem Location.toJson_essence (location : Location) :
    location.essence.toJson = location.toJson.reduced := by
  cases location <;> simp [essence, toJson, GeoPoint.toJson, Json.reducedField]

theorem GeoPredicate.body_essence (predicate : GeoPredicate) :
    predicate.essence.body = predicate.body.reduced := by
  cases predicate <;> simp [essence, body, Json.reducedField, Location.toJson_essence]

@[simp] theorem InnerHits.reduced_toJson (hits : InnerHits) : hits.toJson.reduced = hits.toJson := by
  obtain ⟨name, start, size⟩ := hits
  cases name <;> cases start <;> cases size <;> simp [toJson, Json.reducedField]

namespace QueryTree

@[simp] theorem map_innerHitsFields (hits : Option InnerHits) :
    (innerHitsFields hits).map Json.reducedField = innerHitsFields hits := by
  cases hits <;> simp [innerHitsFields, Json.reducedField]

@[simp] theorem map_clauseFields (name : String) (clauses : List Json) :
    (clauseFields name clauses).map Json.reducedField
      = clauseFields name (clauses.map Json.reduced) := by
  cases clauses <;> simp [clauseFields, Json.reducedField]

theorem toJson_essence_of_body {tree : QueryTree} (h : tree.essence.body = tree.body.reduced) :
    tree.essence.toJson = tree.toJson.reduced := by
  simp [toJson, Json.reducedField, h]

theorem body_essence (tree : QueryTree) : tree.essence.body = tree.body.reduced := by
  induction tree using induction_on_parts with
  | leaf predicate boost => simp [essence, body, Leaf.body_essence]
  | geo predicate => simp [essence, body, GeoPredicate.body_essence]
  | wrapper source => simp [essence, body, Json.reducedField]
  | bool q ih =>
    obtain ⟨must, should, mustNot, filter, minimum, boost⟩ := q
    have written (clauses : List QueryTree) (listed : ∀ clause ∈ clauses, clause ∈ BoolQuery.clauses
        ⟨must, should, mustNot, filter, minimum, boost⟩) :
        (clauses.map essence).map toJson = (clauses.map toJson).map Json.reduced := by
      rw [List.map_map, List.map_map]
      exact List.map_congr_left fun clause mem => toJson_essence_of_body (ih clause (listed clause mem))
    have musts := written must fun clause mem => BoolQuery.mem_clauses_iff.mpr ⟨.must, mem⟩
    have shoulds := written should fun clause mem => BoolQuery.mem_clauses_iff.mpr ⟨.should, mem⟩
    have mustNots := written mustNot fun clause mem => BoolQuery.mem_clauses_iff.mpr ⟨.mustNot, mem⟩
    have filters := written filter fun clause mem => BoolQuery.mem_clauses_iff.mpr ⟨.filter, mem⟩
    have minima : (minimum.toList.map fun n => ("minimum_should_match", Json.ofNat n)).map
        Json.reducedField = minimum.toList.map fun n => ("minimum_should_match", Json.ofNat n) := by
      cases minimum <;> simp [Json.reducedField]
    simp only [essence, BoolQuery.essence, body, boolBody, essences_eq_map, jsonList_eq_map,
      Json.reduced_ofFields, List.map_append, map_clauseFields, Leaf.map_boostFields, minima,
      ← musts, ← shoulds, ← mustNots, ← filters]
  | nested path query scoreMode boost ih => simp [essence, body, Json.reducedField, ih]
  | hasChild type query scoreMode innerHits boost ih => simp [essence, body, Json.reducedField, ih]
  | hasParent type query score innerHits boost ih => simp [essence, body, Json.reducedField, ih]

/-- The essence of a query is written as the query is, up to the form of the numbers. -/
theorem toJson_essence (tree : QueryTree) : tree.essence.toJson = tree.toJson.reduced :=
  toJson_essence_of_body tree.body_essence

end QueryTree

end SearchCriteria
