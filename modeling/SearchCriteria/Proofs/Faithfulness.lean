import SearchCriteria.Proofs.Legibility

/-!
# What is lost when a query is written

Whatever a query says can be told from its JSON form, but for six things: boosts, latitudes and
longitudes that are not finite, the radius or the method of a distance on a field of that name, and
terms on a field that is named as the boost they come with. Each of them is lost somewhere. A geohash
cannot be told from a text either, which is why queries are compared by their essence.
-/

namespace SearchCriteria

/-- Where one function tells apart no more than another one does, lists that are not told apart by the
other are not told apart by it. -/
theorem map_eq_map_of {α β γ : Type} {f : α → β} {g : α → γ} {items items' : List α}
    (h : items.map f = items'.map f)
    (each : ∀ a ∈ items, ∀ b ∈ items', f a = f b → g a = g b) : items.map g = items'.map g := by
  induction items generalizing items' with
  | nil => cases items' with
    | nil => rfl
    | cons => cases h
  | cons item rest ih => cases items' with
    | nil => cases h
    | cons item' rest' =>
      obtain ⟨first, others⟩ := List.cons.inj h
      rw [List.map_cons, List.map_cons, each item List.mem_cons_self item' List.mem_cons_self first,
        ih others fun a mem b mem' => each a (List.mem_cons_of_mem _ mem) b (List.mem_cons_of_mem _ mem')]

/-- What can be lost when a query is written. -/
inductive Loss where
  | boost
  | latitude
  | longitude
  | radius
  | method
  | terms
deriving DecidableEq, Repr

namespace QueryTree

/-- A query loses something of what it says itself when it is written. -/
inductive Loses : QueryTree → Loss → Prop where
  /-- A boost that is not finite becomes null. -/
  | boost {tree : QueryTree} {x : Double} (boosted : tree.boost? = some x)
      (other : x.isFinite = false) : Loses tree .boost
  | latitude {predicate : GeoPredicate} {point : GeoPoint} (mem : point ∈ predicate.points)
      (other : point.lat.isFinite = false) : Loses (.geo predicate) .latitude
  | longitude {predicate : GeoPredicate} {point : GeoPoint} (mem : point ∈ predicate.points)
      (other : point.lon.isFinite = false) : Loses (.geo predicate) .longitude
  /-- The centre takes the place of the radius. -/
  | radius {field radius : String} {centre : Location} {method : DistanceMethod}
      (named : field = "distance") : Loses (.geo (.distance field centre radius method)) .radius
  /-- The centre takes the place of the method. -/
  | method {field radius : String} {centre : Location} {method : DistanceMethod}
      (named : field = "distance_type") : Loses (.geo (.distance field centre radius method)) .method
  /-- The boost takes the place of the terms. -/
  | terms {field : String} {values : List (Option String)} {x : Double} (named : field = "boost") :
      Loses (.leaf (.terms field values) (some x)) .terms

/-- A loss does not happen in a query, nor in any part of it. -/
def Keeps (tree : QueryTree) (loss : Loss) : Prop :=
  ∀ part, tree.Contains part → ¬ part.Loses loss

variable {tree tree' : QueryTree} {loss : Loss}

theorem Keeps.finite_boost (h : tree.Keeps .boost) : ∀ x ∈ tree.boost?, x.isFinite := by
  intro x boosted
  by_contra other
  exact h tree (.itself tree) (.boost boosted (by simpa using other))

theorem Keeps.finite_reduced (h : tree.Keeps .boost) :
    ∀ x ∈ tree.boost?.map Double.reduced, x.isFinite := by
  simpa using h.finite_boost

theorem finite_points {predicate : GeoPredicate} (h : ∀ loss, (geo predicate).Keeps loss) :
    ∀ point ∈ predicate.points, point.IsFinite := by
  intro point mem
  constructor
  · by_contra other
    exact h .latitude _ (.itself _) (.latitude mem (by simpa using other))
  · by_contra other
    exact h .longitude _ (.itself _) (.longitude mem (by simpa using other))

theorem shown_geo {predicate : GeoPredicate} (h : ∀ loss, (geo predicate).Keeps loss) :
    predicate.Shown := by
  cases predicate with
  | distance field centre radius method =>
    exact ⟨fun named => h .radius _ (.itself _) (.radius named),
      fun named => h .method _ (.itself _) (.method named)⟩
  | boundingBox | shape => trivial

theorem shown_leaf {predicate : Leaf} {boost : Option Double}
    (h : (leaf predicate boost).Keeps .terms) : predicate.Shown boost := by
  cases predicate with
  | terms field values =>
    cases boost with
    | none => exact .inl rfl
    | some x => exact .inr fun named => h _ (.itself _) (.terms named)
  | matchAll | queryString | matchText | fuzzy | range | fieldExists | wildcard | regexp => trivial

theorem Keeps.clause {q : BoolQuery} {clause : QueryTree} (h : (bool q).Keeps loss)
    (mem : clause ∈ q.clauses) : clause.Keeps loss :=
  fun part within => h part (.clause mem within)

theorem Keeps.nested {path : String} {query : QueryTree} {scoreMode : ScoreMode}
    {boost : Option Double} (h : (QueryTree.nested path query scoreMode boost).Keeps loss) :
    query.Keeps loss :=
  fun part within => h part (.nested within)

theorem Keeps.asked {query : QueryTree} (h : tree.Keeps loss) (asks : tree.asked? = some query) :
    query.Keeps loss :=
  fun part within => h part (.related asks not_false within)

/-- The forms of queries. -/
inductive Form where
  | leaf
  | geo
  | wrapper
  | bool
  | nested
  | hasChild
  | hasParent

def form : QueryTree → Form
  | .leaf .. => .leaf
  | .geo _ => .geo
  | .wrapper _ => .wrapper
  | .bool _ => .bool
  | .nested .. => .nested
  | .hasChild .. => .hasChild
  | .hasParent .. => .hasParent

/-- The form of the queries of a kind. -/
def Form.ofKind (kind : String) : Form :=
  if kind ∈ ["geo_distance", "geo_bounding_box", "geo_shape"] then .geo
  else if kind = "wrapper" then .wrapper
  else if kind = "bool" then .bool
  else if kind = "nested" then .nested
  else if kind = "has_child" then .hasChild
  else if kind = "has_parent" then .hasParent
  else .leaf

theorem ofKind_kind (tree : QueryTree) : Form.ofKind tree.kind = tree.form := by
  cases tree with
  | leaf predicate => cases predicate <;> rfl
  | geo predicate => cases predicate <;> rfl
  | wrapper | bool | nested | hasChild | hasParent => rfl

/-- Queries that are written alike are of one form and one kind, and have the same body. -/
theorem form_kind_body_eq (h : tree.essence.toJson = tree'.essence.toJson) :
    tree.form = tree'.form ∧ tree.kind = tree'.kind ∧ tree.essence.body = tree'.essence.body := by
  obtain ⟨kinds, bodies⟩ : tree.kind = tree'.kind ∧ tree.essence.body = tree'.essence.body := by
    simpa [toJson] using h
  exact ⟨by rw [← ofKind_kind, kinds, ofKind_kind], kinds, bodies⟩

end QueryTree

namespace BoolQuery

/-- The fields of a boolean query other than the boost. -/
def fields (q : BoolQuery) : List (String × Json) :=
  QueryTree.clauseFields "must" (q.must.map QueryTree.toJson)
    ++ QueryTree.clauseFields "should" (q.should.map QueryTree.toJson)
    ++ QueryTree.clauseFields "must_not" (q.mustNot.map QueryTree.toJson)
    ++ QueryTree.clauseFields "filter" (q.filter.map QueryTree.toJson)
    ++ q.minimumShouldMatch.toList.map fun n => ("minimum_should_match", .ofNat n)

theorem body_eq (q : BoolQuery) :
    (QueryTree.bool q).body = .ofFields (q.fields ++ Leaf.boostFields q.boost) := by
  obtain ⟨must, should, mustNot, filter, minimum, boost⟩ := q
  simp [QueryTree.body, QueryTree.boolBody, fields]

theorem last?_fields (q : BoolQuery) (kind : ClauseKind) :
    Table.last? kind.label q.fields = if q.clausesOf kind = [] then .none
      else .some (.array ((q.clausesOf kind).map QueryTree.toJson)) := by
  split
  · next empty => cases kind <;> simp_all [fields, ClauseKind.label, clausesOf]
  · next filled => cases kind <;> simp_all [fields, ClauseKind.label, clausesOf]

theorem last?_minimum_fields (q : BoolQuery) :
    Table.last? "minimum_should_match" q.fields = q.minimumShouldMatch.map Json.ofNat := by
  simp [fields]

theorem last?_boost_fields (q : BoolQuery) : Table.last? "boost" q.fields = .none := by
  simp [fields]

theorem boost_essence (q : BoolQuery) : q.essence.boost = q.boost.map Double.reduced := by
  obtain ⟨must, should, mustNot, filter, minimum, boost⟩ := q
  rw [essence]

theorem clausesOf_essence (q : BoolQuery) (kind : ClauseKind) :
    q.essence.clausesOf kind = (q.clausesOf kind).map QueryTree.essence := by
  obtain ⟨must, should, mustNot, filter, minimum, boost⟩ := q
  cases kind <;> simp [essence, clausesOf, essences_eq_map]

theorem ext_clausesOf {q q' : BoolQuery} (clauses : ∀ kind, q.clausesOf kind = q'.clausesOf kind)
    (minimum : q.minimumShouldMatch = q'.minimumShouldMatch) (boost : q.boost = q'.boost) :
    q = q' := by
  obtain ⟨must, should, mustNot, filter, minimum, boost⟩ := q
  obtain ⟨must', should', mustNot', filter', minimum', boost'⟩ := q'
  have musts := clauses .must
  have shoulds := clauses .should
  have mustNots := clauses .mustNot
  have filters := clauses .filter
  simp_all [clausesOf]

/-- Clauses are told apart where each is told apart. -/
theorem clausesOf_essence_eq {q q' : BoolQuery} (kind : ClauseKind)
    (each : ∀ clause ∈ q.clausesOf kind, ∀ clause' ∈ q'.clausesOf kind,
      clause.essence.toJson = clause'.essence.toJson → clause.essence = clause'.essence)
    (h : Table.last? kind.label q.essence.fields = Table.last? kind.label q'.essence.fields) :
    q.essence.clausesOf kind = q'.essence.clausesOf kind := by
  rw [last?_fields, last?_fields, clausesOf_essence, clausesOf_essence] at h
  rw [clausesOf_essence, clausesOf_essence]
  have written : ((q.clausesOf kind).map fun clause => clause.essence.toJson)
      = (q'.clausesOf kind).map fun clause => clause.essence.toJson := by
    split at h <;> split at h <;> simp_all [Function.comp_def]
  exact map_eq_map_of written each

end BoolQuery

namespace QueryTree

/-- A query in which nothing is lost is told from its JSON form, but for what its essence leaves
out. -/
theorem essence_eq_of_toJson {tree tree' : QueryTree} (kept : ∀ loss, tree.Keeps loss)
    (kept' : ∀ loss, tree'.Keeps loss) (h : tree.essence.toJson = tree'.essence.toJson) :
    tree.essence = tree'.essence := by
  induction tree using induction_on_parts generalizing tree' with
  | leaf predicate boost =>
    obtain ⟨forms, kinds, bodies⟩ := form_kind_body_eq h
    cases tree' with
    | leaf predicate' boost' =>
      rw [essence, essence, body, body] at bodies
      obtain ⟨predicates, boosts⟩ := Leaf.body_inj (kept .boost).finite_reduced
        (kept' .boost).finite_reduced (shown_leaf (kept .terms)).essence
        (shown_leaf (kept' .terms)).essence (by simpa [kind] using kinds) bodies
      rw [essence, essence, predicates]
      exact congrArg (leaf predicate'.essence) boosts
    -- A query of another form is of another kind.
    | _ => cases forms
  | geo predicate =>
    obtain ⟨forms, kinds, bodies⟩ := form_kind_body_eq h
    cases tree' with
    | geo predicate' =>
      rw [essence, essence, GeoPredicate.essence_eq (finite_points kept) (finite_points kept')
        (shown_geo kept) (shown_geo kept') kinds (by simpa [essence, body] using bodies)]
    | _ => cases forms
  | wrapper source =>
    obtain ⟨forms, kinds, bodies⟩ := form_kind_body_eq h
    cases tree' with
    | wrapper source' =>
      have written : Text.Base64.ofText source = Text.Base64.ofText source' := by
        simpa [essence, body] using bodies
      rw [Text.Base64.ofText_injective written]
    | _ => cases forms
  | bool q ih =>
    obtain ⟨forms, kinds, bodies⟩ := form_kind_body_eq h
    cases tree' with
    | bool q' =>
      rw [essence, essence, BoolQuery.body_eq, BoolQuery.body_eq] at bodies
      rw [q.boost_essence, q'.boost_essence] at bodies
      obtain ⟨boosts, same⟩ := boosted_inj (BoolQuery.last?_boost_fields _)
        (BoolQuery.last?_boost_fields _) (kept .boost).finite_reduced
        (kept' .boost).finite_reduced bodies
      have minima := same "minimum_should_match"
      rw [BoolQuery.last?_minimum_fields, BoolQuery.last?_minimum_fields,
        (Option.map_injective Json.ofNat_injective).eq_iff] at minima
      have clauses (kind : ClauseKind) : q.essence.clausesOf kind = q'.essence.clausesOf kind := by
        refine BoolQuery.clausesOf_essence_eq kind ?_ (same kind.label)
        intro clause mem clause' mem' written
        have listed := BoolQuery.mem_clauses_iff.mpr ⟨kind, mem⟩
        have listed' := BoolQuery.mem_clauses_iff.mpr ⟨kind, mem'⟩
        exact ih clause listed (fun loss => (kept loss).clause listed)
          (fun loss => (kept' loss).clause listed') written
      rw [essence, essence, BoolQuery.ext_clausesOf clauses minima
        (by rw [q.boost_essence, q'.boost_essence]; exact boosts)]
    | _ => cases forms
  | nested path query scoreMode boost ih =>
    obtain ⟨forms, kinds, bodies⟩ := form_kind_body_eq h
    cases tree' with
    | nested path' query' scoreMode' boost' =>
      rw [essence, essence, body, body] at bodies
      obtain ⟨boosts, same⟩ := boosted_inj (by simp) (by simp) (kept .boost).finite_reduced
        (kept' .boost).finite_reduced bodies
      obtain rfl : path = path' := by simpa using same "path"
      have inner : query.essence.toJson = query'.essence.toJson := by
        simpa [toJson] using same "query"
      obtain rfl : scoreMode = scoreMode' := by simpa using same "score_mode"
      rw [essence, essence,
        ih (fun loss => (kept loss).nested) (fun loss => (kept' loss).nested) inner]
      exact congrArg (nested path query'.essence scoreMode) boosts
    | _ => cases forms
  | hasChild type query scoreMode innerHits boost ih =>
    obtain ⟨forms, kinds, bodies⟩ := form_kind_body_eq h
    cases tree' with
    | hasChild type' query' scoreMode' innerHits' boost' =>
      rw [essence, essence, body, body, innerHitsFields, innerHitsFields] at bodies
      obtain ⟨boosts, same⟩ := boosted_inj (by simp) (by simp) (kept .boost).finite_reduced
        (kept' .boost).finite_reduced bodies
      obtain rfl : type = type' := by simpa using same "type"
      have inner : query.essence.toJson = query'.essence.toJson := by
        simpa [toJson] using same "query"
      obtain rfl : scoreMode = scoreMode' := by simpa using same "score_mode"
      obtain rfl : innerHits = innerHits' := by
        simpa [(Option.map_injective InnerHits.toJson_injective).eq_iff] using same "inner_hits"
      rw [essence, essence,
        ih (fun loss => (kept loss).asked rfl) (fun loss => (kept' loss).asked rfl) inner]
      exact congrArg (hasChild type query'.essence scoreMode innerHits) boosts
    | _ => cases forms
  | hasParent type query score innerHits boost ih =>
    obtain ⟨forms, kinds, bodies⟩ := form_kind_body_eq h
    cases tree' with
    | hasParent type' query' score' innerHits' boost' =>
      rw [essence, essence, body, body, innerHitsFields, innerHitsFields] at bodies
      obtain ⟨boosts, same⟩ := boosted_inj (by simp) (by simp) (kept .boost).finite_reduced
        (kept' .boost).finite_reduced bodies
      obtain rfl : type = type' := by simpa using same "parent_type"
      have inner : query.essence.toJson = query'.essence.toJson := by
        simpa [toJson] using same "query"
      obtain rfl : score = score' := by simpa using same "score"
      obtain rfl : innerHits = innerHits' := by
        simpa [(Option.map_injective InnerHits.toJson_injective).eq_iff] using same "inner_hits"
      rw [essence, essence,
        ih (fun loss => (kept loss).asked rfl) (fun loss => (kept' loss).asked rfl) inner]
      exact congrArg (hasParent type query'.essence score innerHits) boosts
    | _ => cases forms

theorem keeps_leaf_iff {predicate : Leaf} {boost : Option Double} :
    (leaf predicate boost).Keeps loss ↔ ¬ (leaf predicate boost).Loses loss := by
  constructor
  · exact fun h => h _ (.itself _)
  · rintro h part (_ | _ | _ | ⟨⟨⟩⟩)
    exact h

theorem keeps_geo_iff {predicate : GeoPredicate} :
    (geo predicate).Keeps loss ↔ ¬ (geo predicate).Loses loss := by
  constructor
  · exact fun h => h _ (.itself _)
  · rintro h part (_ | _ | _ | ⟨⟨⟩⟩)
    exact h

/-- Every loss loses something that no other one does. -/
theorem exists_lost (loss : Loss) : ∃ tree tree' : QueryTree,
    (∀ other, other ≠ loss → tree.Keeps other ∧ tree'.Keeps other) ∧ tree.toJson = tree'.toJson ∧
      tree.essence ≠ tree'.essence := by
  cases loss with
  | boost =>
    have keeps (x : Double) {other : Loss} (apart : other ≠ .boost) :
        (leaf .matchAll (some x)).Keeps other := by
      refine keeps_leaf_iff.mpr fun loses => ?_
      cases loses
      exact apart rfl
    refine ⟨leaf .matchAll (some (.infinite false)), leaf .matchAll (some (.infinite true)),
      fun other apart => ⟨keeps _ apart, keeps _ apart⟩, rfl, ?_⟩
    simp [essence, Double.reduced, Double.value?]
  | latitude =>
    have keeps (x : Double) {other : Loss} (apart : other ≠ .latitude) :
        (geo (.boundingBox "a" (.latLon ⟨x, .zero false⟩) (.text "b"))).Keeps other := by
      refine keeps_geo_iff.mpr fun loses => ?_
      cases loses with
      | boost boosted => cases boosted
      | latitude => exact apart rfl
      | longitude mem other =>
        rw [List.mem_singleton.mp mem] at other
        cases other
    refine ⟨_, _, fun other apart => ⟨keeps (.infinite false) apart, keeps (.infinite true) apart⟩,
      rfl, ?_⟩
    simp [essence, GeoPredicate.essence, Location.essence, Double.reduced, Double.value?]
  | longitude =>
    have keeps (x : Double) {other : Loss} (apart : other ≠ .longitude) :
        (geo (.boundingBox "a" (.latLon ⟨.zero false, x⟩) (.text "b"))).Keeps other := by
      refine keeps_geo_iff.mpr fun loses => ?_
      cases loses with
      | boost boosted => cases boosted
      | longitude => exact apart rfl
      | latitude mem other =>
        rw [List.mem_singleton.mp mem] at other
        cases other
    refine ⟨_, _, fun other apart => ⟨keeps (.infinite false) apart, keeps (.infinite true) apart⟩,
      rfl, ?_⟩
    simp [essence, GeoPredicate.essence, Location.essence, Double.reduced, Double.value?]
  | radius =>
    have keeps (radius : String) {other : Loss} (apart : other ≠ .radius) :
        (geo (.distance "distance" (.text "a") radius .plane)).Keeps other := by
      refine keeps_geo_iff.mpr fun loses => ?_
      cases loses with
      | boost boosted => cases boosted
      | latitude mem | longitude mem => cases mem
      | radius => exact apart rfl
      | method named => exact absurd named (by decide)
    refine ⟨_, _, fun other apart => ⟨keeps "1km" apart, keeps "2km" apart⟩, rfl, ?_⟩
    simp [essence, GeoPredicate.essence]
  | method =>
    have keeps (method : DistanceMethod) {other : Loss} (apart : other ≠ .method) :
        (geo (.distance "distance_type" (.text "a") "1km" method)).Keeps other := by
      refine keeps_geo_iff.mpr fun loses => ?_
      cases loses with
      | boost boosted => cases boosted
      | latitude mem | longitude mem => cases mem
      | radius named => exact absurd named (by decide)
      | method => exact apart rfl
    refine ⟨_, _, fun other apart => ⟨keeps .plane apart, keeps .arc apart⟩, rfl, ?_⟩
    simp [essence, GeoPredicate.essence]
  | terms =>
    have keeps (values : List (Option String)) {other : Loss} (apart : other ≠ .terms) :
        (leaf (.terms "boost" values) (some (.zero false))).Keeps other := by
      refine keeps_leaf_iff.mpr fun loses => ?_
      cases loses with
      | boost boosted other =>
        cases boosted
        cases other
      | terms => exact apart rfl
    refine ⟨_, _, fun other apart => ⟨keeps [] apart, keeps [none] apart⟩, rfl, ?_⟩
    simp [essence, Leaf.essence]

/-- Two queries in which nothing is lost have the same JSON form, numbers being compared by their
values, exactly if they are the same but for geohashes that are texts in the other one. And every
loss is one: there are queries in which only it happens, which are written alike and are not the
same. -/
theorem toJson_faithful :
    (∀ tree tree' : QueryTree, (∀ loss, tree.Keeps loss) → (∀ loss, tree'.Keeps loss) →
      (tree.toJson.reduced = tree'.toJson.reduced ↔ tree.essence = tree'.essence)) ∧
    ∀ loss, ∃ tree tree' : QueryTree,
      (∀ other, other ≠ loss → tree.Keeps other ∧ tree'.Keeps other) ∧ tree.toJson = tree'.toJson ∧
        tree.essence ≠ tree'.essence := by
  refine ⟨fun tree tree' kept kept' => ?_, exists_lost⟩
  rw [← toJson_essence, ← toJson_essence]
  exact ⟨essence_eq_of_toJson kept kept', congrArg toJson⟩

/-- A box that is given by a geohash or by a text, with one zero or the other. -/
theorem toJson_faithful_box :
    let box (corner : Location) (lon : Double) : QueryTree :=
      nested "a" (geo (.boundingBox "b" corner (.latLon ⟨.ofInt 1, lon⟩))) .avg (some (.ofInt 2))
    (box (.geohash "u33") (.zero true)).toJson.reduced
        = (box (.text "u33") (.zero false)).toJson.reduced ∧
      (box (.geohash "u33") (.zero true)).essence = (box (.text "u33") (.zero false)).essence := by
  intro box
  have kept (corner : Location) (lon : Double) (text : corner.point? = none) (finite : lon.isFinite) :
      ∀ loss, (box corner lon).Keeps loss := by
    have points : GeoPredicate.points (.boundingBox "b" corner (.latLon ⟨.ofInt 1, lon⟩))
        = [⟨.ofInt 1, lon⟩] := by
      rw [GeoPredicate.points, text]
      rfl
    rintro loss part (_ | _ | (_ | _ | _ | ⟨⟨⟩⟩) | ⟨⟨⟩⟩) loses
    · cases loses with
      | boost boosted other =>
        cases boosted
        cases other
    · cases loses with
      | boost boosted => cases boosted
      | latitude mem other =>
        rw [points, List.mem_singleton] at mem
        rw [mem] at other
        cases other
      | longitude mem other =>
        rw [points, List.mem_singleton] at mem
        rw [mem, finite] at other
        cases other
  have written : (box (.geohash "u33") (.zero true)).toJson.reduced
      = (box (.text "u33") (.zero false)).toJson.reduced := rfl
  exact ⟨written, (toJson_faithful.1 _ _ (kept _ _ rfl rfl) (kept _ _ rfl rfl)).mp written⟩

end QueryTree

end SearchCriteria
