import SearchCriteria.Proofs.Corners
import SearchCriteria.Proofs.Refusal

/-!
# Which operands suit an operator

What an operand has to be is said here operator by operator. The catalog looks at the kind of an
operand and the number of its values, and what builds the predicate looks at the values themselves;
together they take exactly these operands.
-/

namespace SearchCriteria

namespace Operand

/-- A truth value, number, text, instant or date. -/
def IsScalar : Operand → Prop
  | .bool _ | .integer _ | .float _ | .text _ | .instant _ | .date _ => True
  | _ => False

/-- A scalar that can end a range. -/
def IsBound : Operand → Prop
  | .float value => value.isFinite = true
  | operand => operand.IsScalar

/-- Null, which leaves a side of a range open, or a bound. -/
def IsOptionalBound (operand : Operand) : Prop :=
  operand = .null ∨ operand.IsBound

def IsTerm (operand : Operand) : Prop :=
  operand = .null ∨ operand.IsScalar

/-- A point that is given as such, on a plane, as a latitude and a longitude or as a geohash. -/
def IsPoint : Operand → Prop
  | .geoPoint _ | .planePoint _ => True
  | .text written => PointText.isLatLon written = true ∨ Geohash.isGeohash written = true
  | _ => False

/-- A distance that can be written, or a text that says something. -/
def IsRadius : Operand → Prop
  | .distance value => value.unit = .kilometers ∨ value.unit = .miles
  | .text written => Text.isBlankText written = false
  | _ => False

end Operand

namespace Operator

/-- The operands with which an operator scores. A query that is embedded in an operand has to
compile. Counts have 64 bits, and no list that a machine holds is longer. -/
def Takes (keyword : Bool) (compiles : Query → Prop) (operand : Operand) : Operator → Prop
  | .present | .empty | .notEmpty => operand = .null
  | .equals | .contains | .startsWith | .endsWith | .expression | .fuzzy | .matchesAny
  | .matchesAll | .regexp => operand.IsScalar
  | .less | .lessEqual | .greater | .greaterEqual => operand.IsBound
  | .between => ∃ lower upper, operand = .sequence [lower, upper] ∧
      lower.IsOptionalBound ∧ upper.IsOptionalBound
  | .isIn | .notIn => ∃ items, operand = .sequence items ∧
      items ≠ [] ∧ items.length ≤ Arity.unbounded ∧ (∀ item ∈ items, item.IsTerm) ∧
      (keyword = false → ∃ item ∈ items, item ≠ .null)
  | .hasChild => ∃ type query scoreMode innerHits,
      operand = .hasChild type query scoreMode innerHits ∧ compiles query
  | .hasParent => ∃ type query score innerHits,
      operand = .hasParent type query score innerHits ∧ compiles query
  | .within | .boundingBox | .shapeIntersects | .shapeDisjoint | .shapeWithin | .shapeContains =>
    False

/-- The operands with which an operator filters. -/
def TakesToFilter (operand : Operand) : Operator → Prop
  | .within => ∃ point radius, operand = .sequence [point, radius] ∧ point.IsPoint ∧ radius.IsRadius
  | .boundingBox => (∃ box, operand = .geoBox box) ∨ (∃ box, operand = .sequence [.geoBox box]) ∨
      ∃ first second, operand = .sequence [first, second] ∧ first.IsPoint ∧ second.IsPoint
  | .shapeIntersects | .shapeDisjoint | .shapeWithin | .shapeContains =>
    ∃ shape, operand = .geometry shape
  | _ => False

/-- The operand is of a kind that the operator accepts and has as many values as it takes. -/
def Admits (op : Operator) (operand : Operand) : Prop :=
  operand.kind ∈ op.accepts ∧ op.arity.least ≤ operand.count ∧ operand.count ≤ op.arity.most

theorem check_eq_ok_iff {op : Operator} {field : String} {operand : Operand} :
    op.check field operand.kind operand.count = .ok () ↔ op.Admits operand := by
  rw [check, Admits]
  split
  case isTrue other => simp [other]
  case isFalse accepted =>
    rw [Arity.admits]
    split
    case isTrue admitted => simpa [Decidable.not_not.mp accepted] using admitted
    case isFalse refused => simpa [Decidable.not_not.mp accepted] using refused

end Operator

theorem exists_map_eq_ok_iff {ε α β : Type} {x : Except ε α} {f : α → β} :
    (∃ b, x.map f = .ok b) ↔ ∃ a, x = .ok a := by
  cases x <;> simp [Except.map]

theorem exists_bind_pure_eq_ok_iff {ε α β : Type} {x : Except ε α} {f : α → β} :
    (∃ b, (do let a ← x; pure (f a)) = .ok b) ↔ ∃ a, x = .ok a := by
  cases x <;> simp [bind, Except.bind, pure, Except.pure]

namespace Operand

variable {operand : Operand}

theorem exists_text?_iff : (∃ text, operand.text? = some text) ↔ operand.IsScalar := by
  cases operand <;> simp [text?, IsScalar]

theorem exists_scalarJson?_iff : (∃ json, operand.scalarJson? = some json) ↔ operand.IsBound := by
  cases operand <;> simp [scalarJson?, IsBound, IsScalar]

theorem IsScalar.kind (h : operand.IsScalar) : operand.kind = .scalar := by
  cases operand <;> first | rfl | contradiction

theorem IsScalar.count (h : operand.IsScalar) : operand.count = 1 := by
  cases operand <;> first | rfl | contradiction

theorem kind_eq_null_iff : operand.kind = .null ↔ operand = .null := by
  cases operand <;> simp [kind]

theorem kind_eq_sequence_iff : operand.kind = .sequence ↔ ∃ items, operand = .sequence items := by
  cases operand <;> simp [kind]

theorem kind_eq_hasChild_iff : operand.kind = .hasChild ↔
    ∃ type query scoreMode innerHits, operand = .hasChild type query scoreMode innerHits := by
  cases operand <;> simp [kind]

theorem kind_eq_hasParent_iff : operand.kind = .hasParent ↔
    ∃ type query score innerHits, operand = .hasParent type query score innerHits := by
  cases operand <;> simp [kind]

theorem kind_eq_geometry_iff : operand.kind = .geometry ↔ ∃ shape, operand = .geometry shape := by
  cases operand <;> simp [kind]

theorem IsBound.isScalar (h : operand.IsBound) : operand.IsScalar := by
  cases operand with
  | float => trivial
  | _ => exact h

theorem exists_marks_iff : (∃ location, operand.Marks location) ↔ operand.IsPoint := by
  constructor
  · rintro ⟨location, marks⟩
    cases marks with
    | geoPoint => trivial
    | planePoint => trivial
    | text latLon => exact Or.inl latLon
    | geohash form => exact Or.inr form
  · intro point
    cases operand with
    | geoPoint value => exact ⟨_, .geoPoint value⟩
    | planePoint value => exact ⟨_, .planePoint value⟩
    | text written =>
      rcases point with latLon | form
      · exact ⟨_, .text latLon⟩
      · obtain ⟨point, decoded, -, -⟩ := Geohash.exists_finite_of_isGeohash form
        exact ⟨_, .geohash form decoded⟩
    | _ => contradiction

end Operand

namespace Clause

/-! ## What the families build -/

section Families

variable {settings : Settings} {field : String} {op : Operator} {operand : Operand}

theorem exists_text_iff (family : op.family? = some .text) :
    (∃ tree, text settings field op operand = .ok tree) ↔ operand.IsScalar := by
  rw [← Operand.exists_text?_iff, text]
  cases operand.text? with
  | none => simp
  | some written =>
    rw [exists_map_eq_ok_iff]
    cases made : textLeaf settings field written op with
    | error fault => exact absurd made (textLeaf_ne_error family)
    | ok leaf => simp

theorem exists_bound_iff :
    (∃ json, bound field op operand = .ok json) ↔ operand.IsBound := by
  rw [← Operand.exists_scalarJson?_iff, bound]
  cases operand.scalarJson? <;> simp

theorem exists_optionalBound_iff :
    (∃ found, optionalBound field op operand = .ok found) ↔ operand.IsOptionalBound := by
  cases operand with
  | null => simp [optionalBound, Operand.IsOptionalBound]
  | _ => simp [optionalBound, Operand.IsOptionalBound, exists_map_eq_ok_iff, exists_bound_iff]

theorem exists_range_iff :
    (∃ tree, range field op operand = .ok tree) ↔ ∃ found, bounds field op operand = .ok found :=
  exists_map_eq_ok_iff

theorem exists_bounds_between_iff :
    (∃ found, bounds field .between operand = .ok found) ↔
      ∃ lower upper, operand = .sequence [lower, upper] ∧
        lower.IsOptionalBound ∧ upper.IsOptionalBound := by
  constructor
  · rintro ⟨found, made⟩
    simp only [bounds] at made
    split at made
    case h_1 lower upper =>
      simp only [bind_eq_ok_iff, pure_eq_ok_iff] at made
      obtain ⟨gte, least, lte, most, rfl⟩ := made
      exact ⟨lower, upper, rfl, exists_optionalBound_iff.mp ⟨gte, least⟩,
        exists_optionalBound_iff.mp ⟨lte, most⟩⟩
    case h_2 => contradiction
  · rintro ⟨lower, upper, rfl, least, most⟩
    have lowerMade : ∃ found, optionalBound field .between lower = .ok found :=
      exists_optionalBound_iff.mpr least
    have upperMade : ∃ found, optionalBound field .between upper = .ok found :=
      exists_optionalBound_iff.mpr most
    obtain ⟨gte, least⟩ := lowerMade
    obtain ⟨lte, most⟩ := upperMade
    refine ⟨{ Bounds.unbounded with gte, lte }, ?_⟩
    simp only [bounds, bind_eq_ok_iff, pure_eq_ok_iff]
    exact ⟨gte, least, lte, most, rfl⟩

/-- What is a term has its text, and null has none. -/
theorem term_eq_ok_iff {name : String} {value : Option String} :
    term field name operand = .ok value ↔ operand.IsTerm ∧ operand.text? = value := by
  cases operand <;> simp [term, Operand.IsTerm, Operand.IsScalar, Operand.text?]

theorem terms_eq_ok_iff {name : String} {items : List Operand} {values : List (Option String)} :
    terms field name items = .ok values ↔
      (∀ item ∈ items, item.IsTerm) ∧ items.map Operand.text? = values := by
  simp only [terms, mapM_eq_ok_iff, term_eq_ok_iff, List.forall₂_and_left]
  rw [← List.forall₂_map_left_iff, List.forall₂_eq_eq_eq]

/-- Terms are left when null is dropped if some item is not null. -/
theorem filterMap_text?_ne_nil_iff {items : List Operand} (all : ∀ item ∈ items, item.IsTerm) :
    items.filterMap Operand.text? ≠ [] ↔ ∃ item ∈ items, item ≠ .null := by
  have none {item : Operand} (isTerm : item.IsTerm) : item.text? = .none ↔ item = .null := by
    cases item <;> simp_all [Operand.text?, Operand.IsTerm, Operand.IsScalar]
  rw [Ne, List.filterMap_eq_nil_iff]
  simp only [not_forall, exists_prop]
  exact exists_congr fun item => and_congr_right fun mem => not_congr (none (all item mem))

theorem exists_textMembership_iff {values : List String} (family : op.family? = some .membership) :
    (∃ tree, textMembership field values op = .ok tree) ↔ values ≠ [] := by
  unfold textMembership
  split
  case isTrue none => exact iff_of_false (by simp) (not_not.mpr none)
  case isFalse some =>
    refine iff_of_true ?_ some
    cases op with
    | isIn => exact ⟨_, rfl⟩
    | notIn => exact ⟨_, rfl⟩
    | _ => contradiction

theorem membership_eq_ok_iff {field : ResolvedField} {items : List Operand} {tree : QueryTree} :
    membership field op (.sequence items) = .ok tree ↔
      (∀ item ∈ items, item.IsTerm) ∧
      (if field.isKeyword then exactMembership field.name (items.map Operand.text?) op
        else textMembership field.name (items.filterMap Operand.text?) op) = .ok tree := by
  have texts : (items.map Operand.text?).filterMap id = items.filterMap Operand.text? := by
    rw [List.filterMap_map, Function.id_comp]
  simp only [membership, Operand.items?, bind_eq_ok_iff, terms_eq_ok_iff, ← texts]
  constructor
  · rintro ⟨_, ⟨all, rfl⟩, made⟩
    exact ⟨all, made⟩
  · rintro ⟨all, made⟩
    exact ⟨_, ⟨all, rfl⟩, made⟩

theorem exists_membership_iff {field : ResolvedField} {items : List Operand}
    (family : op.family? = some .membership) :
    (∃ tree, membership field op (.sequence items) = .ok tree) ↔
      (∀ item ∈ items, item.IsTerm) ∧ (field.isKeyword = false → ∃ item ∈ items, item ≠ .null) := by
  simp only [membership_eq_ok_iff, exists_and_left]
  refine and_congr_right fun all => ?_
  cases field.isKeyword with
  | true =>
    cases made : exactMembership field.name (items.map Operand.text?) op with
    | ok tree => simp
    | error fault => exact absurd made (exactMembership_ne_error family)
  | false =>
    simp only [Bool.false_eq_true, if_false, exists_textMembership_iff family,
      filterMap_text?_ne_nil_iff all, forall_const]

end Families

/-! ## Scoring entries -/

variable {settings : Settings} {field : ResolvedField} {op : Operator} {operand : Operand}
variable {embedded : Except Fault (Option QueryTree)} {tree : QueryTree}

/-- A scoring entry is built if its operand is admitted and its family can build it. -/
theorem build_eq_ok_iff {family : ClauseFamily} (known : op.family? = some family) :
    build settings field ⟨op, operand⟩ embedded = .ok tree ↔
      op.Admits operand ∧ buildAs family settings field ⟨op, operand⟩ embedded = .ok tree := by
  have check : op.check field.name operand.kind operand.count = .ok () ↔ op.Admits operand :=
    Operator.check_eq_ok_iff
  rw [← check, build, bind_eq_ok_iff]
  simp only [known]
  constructor
  · rintro ⟨_, passed, made⟩
    exact ⟨passed, made⟩
  · rintro ⟨passed, made⟩
    exact ⟨(), passed, made⟩

theorem exists_build_iff {family : ClauseFamily} (known : op.family? = some family) :
    (∃ tree, build settings field ⟨op, operand⟩ embedded = .ok tree) ↔
      op.Admits operand ∧
        ∃ tree, buildAs family settings field ⟨op, operand⟩ embedded = .ok tree := by
  simp only [build_eq_ok_iff known, exists_and_left]

theorem build_ne_ok (unknown : op.family? = none) :
    build settings field ⟨op, operand⟩ embedded ≠ .ok tree := by
  intro built
  obtain ⟨_, -, made⟩ := bind_eq_ok_iff.mp built
  simp only [unknown] at made
  contradiction

/-- An operator that takes one scalar admits every scalar. -/
theorem admits_of_isScalar (accepts : op.accepts = [.scalar]) (arity : op.arity = ⟨1, 1⟩)
    (h : operand.IsScalar) : op.Admits operand := by
  rw [Operator.Admits, accepts, arity, h.kind, h.count]
  decide

theorem exists_build_presence_iff (accepts : op.accepts = [.null]) (arity : op.arity = ⟨0, 0⟩)
    (family : op.family? = some .presence) :
    (∃ tree, build settings field ⟨op, operand⟩ embedded = .ok tree) ↔ operand = .null := by
  rw [exists_build_iff family, Operator.Admits, accepts, arity, List.mem_singleton,
    Operand.kind_eq_null_iff]
  constructor
  · rintro ⟨⟨null, -⟩, -⟩
    exact null
  · rintro rfl
    refine ⟨⟨rfl, le_rfl, le_rfl⟩, ?_⟩
    cases made : presence field.name op with
    | ok tree => exact ⟨tree, made⟩
    | error fault => exact absurd made (presence_ne_error family)

theorem exists_build_text_iff (accepts : op.accepts = [.scalar]) (arity : op.arity = ⟨1, 1⟩)
    (family : op.family? = some .text) :
    (∃ tree, build settings field ⟨op, operand⟩ embedded = .ok tree) ↔ operand.IsScalar := by
  have made : (∃ tree, buildAs .text settings field ⟨op, operand⟩ embedded = .ok tree) ↔
      operand.IsScalar := exists_text_iff family
  rw [exists_build_iff family, made]
  exact and_iff_right_of_imp (admits_of_isScalar accepts arity)

/-- An operator with one bound, whichever of the four it is. -/
theorem exists_build_bound_iff (accepts : op.accepts = [.scalar]) (arity : op.arity = ⟨1, 1⟩)
    (family : op.family? = some .range)
    (single : (∃ found, bounds field.name op operand = .ok found) ↔
      ∃ json, bound field.name op operand = .ok json) :
    (∃ tree, build settings field ⟨op, operand⟩ embedded = .ok tree) ↔ operand.IsBound := by
  have made : (∃ tree, buildAs .range settings field ⟨op, operand⟩ embedded = .ok tree) ↔
      operand.IsBound := exists_range_iff.trans (single.trans exists_bound_iff)
  rw [exists_build_iff family, made]
  exact and_iff_right_of_imp fun isBound => admits_of_isScalar accepts arity isBound.isScalar

theorem exists_build_between_iff :
    (∃ tree, build settings field ⟨.between, operand⟩ embedded = .ok tree) ↔
      ∃ lower upper, operand = .sequence [lower, upper] ∧
        lower.IsOptionalBound ∧ upper.IsOptionalBound := by
  have made : (∃ tree, buildAs .range settings field ⟨.between, operand⟩ embedded = .ok tree) ↔
      ∃ lower upper, operand = .sequence [lower, upper] ∧
        lower.IsOptionalBound ∧ upper.IsOptionalBound :=
    exists_range_iff.trans exists_bounds_between_iff
  rw [exists_build_iff rfl, made]
  refine and_iff_right_of_imp ?_
  rintro ⟨lower, upper, rfl, -⟩
  exact ⟨List.mem_singleton_self _, le_rfl, le_rfl⟩

theorem exists_build_membership_iff (accepts : op.accepts = [.sequence])
    (arity : op.arity = ⟨1, Arity.unbounded⟩) (family : op.family? = some .membership) :
    (∃ tree, build settings field ⟨op, operand⟩ embedded = .ok tree) ↔
      ∃ items, operand = .sequence items ∧ items ≠ [] ∧ items.length ≤ Arity.unbounded ∧
        (∀ item ∈ items, item.IsTerm) ∧
        (field.isKeyword = false → ∃ item ∈ items, item ≠ .null) := by
  rw [exists_build_iff family, Operator.Admits, accepts, arity, List.mem_singleton,
    Operand.kind_eq_sequence_iff]
  constructor
  · rintro ⟨⟨⟨items, rfl⟩, some, fits⟩, made⟩
    exact ⟨items, rfl, List.ne_nil_of_length_pos some, fits, (exists_membership_iff family).mp made⟩
  · rintro ⟨items, rfl, some, fits, suit⟩
    exact ⟨⟨⟨items, rfl⟩, List.length_pos_iff.mpr some, fits⟩,
      (exists_membership_iff family).mpr suit⟩

/-- An entry with an embedded query is built if it passes the check and the query compiles. -/
theorem exists_build_embedded_iff {query : Query}
    {compile : Query → Except Fault (Option QueryTree)} (asks : operand.embedded? = some query)
    (passes : op.check field.name operand.kind operand.count = .ok ()) :
    (∃ tree, build settings field ⟨op, operand⟩ (operand.compileEmbedded compile) = .ok tree) ↔
      ∃ tree, compile query = .ok tree := by
  have asks' : (Entry.mk op operand).operand.embedded? = some query := asks
  rw [build_compileEmbedded asks', passes]
  exact exists_map_eq_ok_iff

theorem exists_build_hasChild_iff {compile : Query → Except Fault (Option QueryTree)} :
    (∃ tree, build settings field ⟨.hasChild, operand⟩ (operand.compileEmbedded compile)
      = .ok tree) ↔
      ∃ type query scoreMode innerHits, operand = .hasChild type query scoreMode innerHits ∧
        ∃ tree, compile query = .ok tree := by
  constructor
  · intro built
    obtain ⟨⟨kind, -⟩, -⟩ := (exists_build_iff rfl).mp built
    obtain ⟨type, query, scoreMode, innerHits, rfl⟩ :=
      Operand.kind_eq_hasChild_iff.mp (List.mem_singleton.mp kind)
    exact ⟨type, query, scoreMode, innerHits, rfl, (exists_build_embedded_iff rfl rfl).mp built⟩
  · rintro ⟨type, query, scoreMode, innerHits, rfl, compiles⟩
    exact (exists_build_embedded_iff rfl rfl).mpr compiles

theorem exists_build_hasParent_iff {compile : Query → Except Fault (Option QueryTree)} :
    (∃ tree, build settings field ⟨.hasParent, operand⟩ (operand.compileEmbedded compile)
      = .ok tree) ↔
      ∃ type query score innerHits, operand = .hasParent type query score innerHits ∧
        ∃ tree, compile query = .ok tree := by
  constructor
  · intro built
    obtain ⟨⟨kind, -⟩, -⟩ := (exists_build_iff rfl).mp built
    obtain ⟨type, query, score, innerHits, rfl⟩ :=
      Operand.kind_eq_hasParent_iff.mp (List.mem_singleton.mp kind)
    exact ⟨type, query, score, innerHits, rfl, (exists_build_embedded_iff rfl rfl).mp built⟩
  · rintro ⟨type, query, score, innerHits, rfl, compiles⟩
    exact (exists_build_embedded_iff rfl rfl).mpr compiles

end Clause

/-! ## Filtering entries -/

namespace GeoFilter

variable {field : String} {operand : Operand}

theorem exists_centre_iff :
    (∃ location, centre field operand = .ok location) ↔ operand.IsPoint := by
  cases operand with
  | text written =>
    cases latLon : PointText.isLatLon written <;> cases form : Geohash.isGeohash written <;>
      simp [centre, plainLocation?, geohash?, Operand.IsPoint, latLon, form]
  | _ => simp [centre, plainLocation?, geohash?, Operand.IsPoint]

theorem exists_radius_iff :
    (∃ text, radius field operand = .ok text) ↔ operand.IsRadius := by
  cases operand with
  | text written =>
    cases blank : Text.isBlankText written <;> simp [radius, Operand.IsRadius, blank]
  | distance value =>
    obtain ⟨value, unit⟩ := value
    rw [radius, Distance.text, exists_bind_pure_eq_ok_iff]
    cases unit <;> simp [DistanceUnit.code, Operand.IsRadius]
  | _ => simp [radius, Operand.IsRadius]

theorem exists_distance_iff {point length : Operand} :
    (∃ predicate, distance field point length = .ok predicate) ↔
      point.IsPoint ∧ length.IsRadius := by
  have place : (∃ location, centre field point = .ok location) ↔ point.IsPoint := exists_centre_iff
  have reach : (∃ text, radius field length = .ok text) ↔ length.IsRadius := exists_radius_iff
  rw [← place, ← reach]
  simp only [distance, bind_eq_ok_iff, pure_eq_ok_iff]
  constructor
  · rintro ⟨_, location, found, text, written, -⟩
    exact ⟨⟨location, found⟩, text, written⟩
  · rintro ⟨⟨location, found⟩, text, written⟩
    exact ⟨_, location, found, text, written, rfl⟩

theorem exists_boundingBox_iff {operands : List Operand} :
    (∃ predicate, boundingBox field operands = .ok predicate) ↔
      (∃ box, operands = [.geoBox box]) ∨
        ∃ first second, operands = [first, second] ∧ first.IsPoint ∧ second.IsPoint := by
  constructor
  · rintro ⟨predicate, built⟩
    obtain ⟨topLeft, bottomRight, outline, -⟩ := boundingBox_eq_ok_iff.mp built
    cases outline with
    | box value => exact Or.inl ⟨value, rfl⟩
    | corners north south =>
      exact Or.inr ⟨_, _, rfl, Operand.exists_marks_iff.mp ⟨_, north⟩,
        Operand.exists_marks_iff.mp ⟨_, south⟩⟩
  · rintro (⟨box, rfl⟩ | ⟨first, second, rfl, north, south⟩)
    · exact ⟨_, rfl⟩
    · obtain ⟨topLeft, north⟩ := Operand.exists_marks_iff.mpr north
      obtain ⟨bottomRight, south⟩ := Operand.exists_marks_iff.mpr south
      exact ⟨_, boundingBox_eq_ok_iff.mpr ⟨_, _, .corners north south, rfl⟩⟩

theorem exists_build_within_iff :
    (∃ predicate, build field ⟨.within, operand⟩ = .ok predicate) ↔
      ∃ point radius, operand = .sequence [point, radius] ∧ point.IsPoint ∧ radius.IsRadius := by
  constructor
  · rintro ⟨predicate, built⟩
    obtain ⟨_, -, made⟩ := bind_eq_ok_iff.mp built
    dsimp only at made
    split at made
    case h_1 point radius => exact ⟨point, radius, rfl, exists_distance_iff.mp ⟨predicate, made⟩⟩
    case h_2 => contradiction
  · rintro ⟨point, radius, rfl, suit⟩
    obtain ⟨predicate, made⟩ := exists_distance_iff.mpr suit
    exact ⟨predicate, bind_eq_ok_iff.mpr ⟨(), rfl, made⟩⟩

theorem exists_build_boundingBox_iff :
    (∃ predicate, build field ⟨.boundingBox, operand⟩ = .ok predicate) ↔
      (∃ box, operand = .geoBox box) ∨ (∃ box, operand = .sequence [.geoBox box]) ∨
        ∃ first second, operand = .sequence [first, second] ∧ first.IsPoint ∧ second.IsPoint := by
  constructor
  · rintro ⟨predicate, built⟩
    obtain ⟨_, -, made⟩ := bind_eq_ok_iff.mp built
    dsimp only at made
    split at made
    case h_1 items =>
      have suits := exists_boundingBox_iff.mp ⟨predicate, made⟩
      rcases suits with ⟨box, rfl⟩ | ⟨first, second, rfl, suit⟩
      · exact Or.inr (Or.inl ⟨box, rfl⟩)
      · exact Or.inr (Or.inr ⟨first, second, rfl, suit⟩)
    case h_2 =>
      rcases exists_boundingBox_iff.mp ⟨predicate, made⟩ with ⟨box, single⟩ | ⟨_, _, pair, -⟩
      · exact Or.inl ⟨box, List.singleton_inj.mp single⟩
      · simp at pair
  · rintro (⟨box, rfl⟩ | ⟨box, rfl⟩ | ⟨first, second, rfl, suit⟩)
    · exact ⟨_, rfl⟩
    · exact ⟨_, rfl⟩
    · obtain ⟨predicate, made⟩ := exists_boundingBox_iff.mpr (Or.inr ⟨first, second, rfl, suit⟩)
      exact ⟨predicate, bind_eq_ok_iff.mpr ⟨(), rfl, made⟩⟩

/-- An operator on shapes, whichever of the four it is. -/
theorem exists_build_shape_iff {op : Operator} {asked : ShapeRelation}
    (accepts : op.accepts = [.geometry]) (arity : op.arity = ⟨1, 1⟩)
    (shapes : build field ⟨op, operand⟩ = (do
      op.check field operand.kind operand.count
      shape field operand asked)) :
    (∃ predicate, build field ⟨op, operand⟩ = .ok predicate) ↔
      ∃ value, operand = .geometry value := by
  rw [shapes]
  constructor
  · rintro ⟨predicate, built⟩
    obtain ⟨_, checked, -⟩ := bind_eq_ok_iff.mp built
    have kind := Operator.kind_mem_accepts checked
    rw [accepts, List.mem_singleton] at kind
    exact Operand.kind_eq_geometry_iff.mp kind
  · rintro ⟨value, rfl⟩
    refine ⟨_, bind_eq_ok_iff.mpr ⟨(), Operator.check_eq_ok_iff.mpr ?_, rfl⟩⟩
    rw [Operator.Admits, accepts, arity]
    exact ⟨List.mem_singleton_self _, le_rfl, le_rfl⟩

theorem not_exists_build_of_query {op : Operator} (query : op.context = .query) :
    ¬ ∃ predicate, build field ⟨op, operand⟩ = .ok predicate := by
  rintro ⟨predicate, built⟩
  obtain ⟨_, -, made⟩ := bind_eq_ok_iff.mp built
  cases op
  case within | boundingBox | shapeIntersects | shapeDisjoint | shapeWithin | shapeContains =>
    exact absurd query (by decide)
  all_goals contradiction

end GeoFilter

/-- Predicates are built from exactly the operands that suit their operators: a scoring one from the
operands its operator takes, a filtering one from those it takes to filter. -/
theorem built_iff_suitable (settings : Settings) (field : ResolvedField) (name : String)
    (entry : Entry) (compile : Query → Except Fault (Option QueryTree)) :
    ((∃ tree, Clause.build settings field entry (entry.operand.compileEmbedded compile)
        = .ok tree) ↔
      entry.operator.Takes field.isKeyword (fun query => ∃ tree, compile query = .ok tree)
        entry.operand) ∧
    ((∃ predicate, GeoFilter.build name entry = .ok predicate) ↔
      entry.operator.TakesToFilter entry.operand) := by
  obtain ⟨op, operand⟩ := entry
  constructor
  · cases op
    case present | empty | notEmpty => exact Clause.exists_build_presence_iff rfl rfl rfl
    case equals | contains | startsWith | endsWith | expression | fuzzy | matchesAny | matchesAll
        | regexp =>
      exact Clause.exists_build_text_iff rfl rfl rfl
    case less | lessEqual | greater | greaterEqual =>
      exact Clause.exists_build_bound_iff rfl rfl rfl exists_bind_pure_eq_ok_iff
    case between => exact Clause.exists_build_between_iff
    case isIn | notIn => exact Clause.exists_build_membership_iff rfl rfl rfl
    case hasChild => exact Clause.exists_build_hasChild_iff
    case hasParent => exact Clause.exists_build_hasParent_iff
    case within | boundingBox | shapeIntersects | shapeDisjoint | shapeWithin | shapeContains =>
      refine iff_of_false ?_ id
      rintro ⟨tree, built⟩
      exact Clause.build_ne_ok rfl built
  · cases op
    case within => exact GeoFilter.exists_build_within_iff
    case boundingBox => exact GeoFilter.exists_build_boundingBox_iff
    case shapeIntersects | shapeDisjoint | shapeWithin | shapeContains =>
      exact GeoFilter.exists_build_shape_iff rfl rfl rfl
    all_goals exact iff_of_false (GeoFilter.not_exists_build_of_query rfl) id

end SearchCriteria
