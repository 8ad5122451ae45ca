import SearchCriteria.GeoFilter
import SearchCriteria.Proofs.Compilation
import SearchCriteria.Proofs.Coordinates
import SearchCriteria.Proofs.Geohash

/-!
# Corners of boxes

Which locations the operands of a box name. A geohash is decoded to the text of its point, and since
its coordinates are finite that text is a latitude and a longitude. So the corners that come out are
corners again when they are given as operands, and they name themselves.
-/

namespace SearchCriteria

/-- No letter of a geohash is a comma. -/
theorem PointText.isLatLon_of_isGeohash {text : String} (h : Geohash.isGeohash text = true) :
    isLatLon text = false := by
  refine Bool.eq_false_iff.mpr fun latLon => ?_
  obtain ⟨lat, lon, split, -, -⟩ := isLatLon_iff.mp latLon
  obtain ⟨-, -, letters⟩ := Geohash.isGeohash_iff.mp h
  have comma : ',' ∈ text.toList := by simp [split]
  exact absurd (letters ',' comma) (by decide)

/-- The location that a corner names. -/
inductive Operand.Marks : Operand → Location → Prop where
  | geoPoint (point : GeoPoint) : Marks (.geoPoint point) (.latLon point)
  | planePoint (point : PlanePoint) : Marks (.planePoint point) (.latLon ⟨point.y, point.x⟩)
  | text {written : String} (latLon : PointText.isLatLon written = true) :
      Marks (.text written) (.text written)
  | geohash {letters : String} {point : GeoPoint} (form : Geohash.isGeohash letters = true)
      (decoded : Geohash.decode? letters = some point) : Marks (.text letters) (.text point.text)

/-- The locations that the operands of a box name: the corners of a box that is given as such, or
the corner that each of two operands names. -/
inductive Operand.Outline : List Operand → Location → Location → Prop where
  | box (value : GeoBox) :
      Outline [.geoBox value] (.latLon value.topLeft) (.latLon value.bottomRight)
  | corners {first second : Operand} {topLeft bottomRight : Location}
      (north : first.Marks topLeft) (south : second.Marks bottomRight) :
      Outline [first, second] topLeft bottomRight

/-- A corner that the search engine takes: it is no geohash, and its text is a latitude and a
longitude. -/
def Location.IsCorner : Location → Prop
  | .latLon _ => True
  | .text written => PointText.isLatLon written = true
  | .geohash _ => False

/-- A location as an operand. -/
def Location.operand : Location → Operand
  | .latLon point => .geoPoint point
  | .text written => .text written
  | .geohash letters => .text letters

namespace Operand

variable {operand : Operand} {location location' : Location}

theorem Marks.isCorner (h : operand.Marks location) : location.IsCorner := by
  cases h with
  | geoPoint => trivial
  | planePoint => trivial
  | text latLon => exact latLon
  | geohash form decoded =>
    obtain ⟨point, decoded', lat, lon⟩ := Geohash.exists_finite_of_isGeohash form
    cases decoded.symm.trans decoded'
    exact GeoPoint.isLatLon_text lat lon

/-- An operand names one location: its text has at most one of the two forms. -/
theorem Marks.unique (h : operand.Marks location) (h' : operand.Marks location') :
    location = location' := by
  cases h with
  | geoPoint =>
    cases h'
    rfl
  | planePoint =>
    cases h'
    rfl
  | text latLon =>
    cases h' with
    | text => rfl
    | geohash form =>
      rw [PointText.isLatLon_of_isGeohash form] at latLon
      contradiction
  | geohash form decoded =>
    cases h' with
    | text latLon =>
      rw [PointText.isLatLon_of_isGeohash form] at latLon
      contradiction
    | geohash _ decoded' =>
      cases decoded.symm.trans decoded'
      rfl

end Operand

/-- A corner names itself. -/
theorem Location.IsCorner.marks {location : Location} (h : location.IsCorner) :
    location.operand.Marks location := by
  cases location with
  | latLon point => exact .geoPoint point
  | text written => exact .text h
  | geohash => contradiction

theorem Operand.Outline.isCorner {operands : List Operand} {topLeft bottomRight : Location}
    (h : Outline operands topLeft bottomRight) : topLeft.IsCorner ∧ bottomRight.IsCorner := by
  cases h with
  | box => exact ⟨trivial, trivial⟩
  | corners north south => exact ⟨north.isCorner, south.isCorner⟩

namespace GeoFilter

variable {field : String} {operand : Operand} {location : Location}

theorem plainLocation?_marks (h : plainLocation? operand = some location) :
    operand.Marks location := by
  unfold plainLocation? at h
  split at h
  · cases h
    exact .geoPoint _
  · cases h
    exact .planePoint _
  · split at h
    case isTrue latLon =>
      cases h
      exact .text latLon
    case isFalse => contradiction
  · contradiction

theorem geohash?_eq_some_iff {hash : String} :
    geohash? operand = some hash ↔ operand = .text hash ∧ Geohash.isGeohash hash = true := by
  constructor
  · intro h
    unfold geohash? at h
    split at h
    · split at h
      case isTrue form =>
        cases h
        exact ⟨rfl, form⟩
      case isFalse => contradiction
    · contradiction
  · rintro ⟨rfl, form⟩
    rw [geohash?, if_pos form]

theorem corner_eq_ok_iff : corner field operand = .ok location ↔ operand.Marks location := by
  constructor
  · intro h
    unfold corner at h
    split at h
    case h_1 plain =>
      cases h
      exact plainLocation?_marks plain
    case h_2 hash _ found =>
      obtain ⟨rfl, form⟩ := geohash?_eq_some_iff.mp found
      split at h
      case h_1 point decoded =>
        cases h
        exact .geohash form decoded
      case h_2 => contradiction
    case h_3 => contradiction
  · intro h
    cases h with
    | geoPoint => rfl
    | planePoint => rfl
    | text latLon => simp only [corner, plainLocation?, latLon, if_true]
    | geohash form decoded =>
      simp only [corner, plainLocation?, PointText.isLatLon_of_isGeohash form, Bool.false_eq_true,
        if_false, geohash?, form, if_true, decoded]

/-- A box is built exactly if its operands name corners, and then it has these corners. -/
theorem boundingBox_eq_ok_iff {operands : List Operand} {predicate : GeoPredicate} :
    boundingBox field operands = .ok predicate ↔
      ∃ topLeft bottomRight, Operand.Outline operands topLeft bottomRight ∧
        predicate = .boundingBox field topLeft bottomRight := by
  constructor
  · intro h
    unfold boundingBox at h
    split at h
    case h_1 value =>
      cases h
      exact ⟨_, _, .box value, rfl⟩
    case h_2 first second _ =>
      simp only [bind_eq_ok_iff, pure_eq_ok_iff, corner_eq_ok_iff] at h
      obtain ⟨topLeft, north, bottomRight, south, rfl⟩ := h
      exact ⟨topLeft, bottomRight, .corners north south, rfl⟩
    case h_3 => contradiction
  · rintro ⟨topLeft, bottomRight, outline, rfl⟩
    cases outline with
    | box => rfl
    | corners north south =>
      rw [boundingBox, corner_eq_ok_iff.mpr north, corner_eq_ok_iff.mpr south]
      rfl

/-- A text of the form of a geohash is decoded, so no corner is refused for being a bad one. -/
theorem corner_ne_badGeohash {name op text : String} :
    corner field operand ≠ .error (.invalidArgument name op (.badGeohash text)) := by
  intro h
  unfold corner at h
  split at h
  case h_1 => contradiction
  case h_2 hash _ found =>
    obtain ⟨rfl, form⟩ := geohash?_eq_some_iff.mp found
    obtain ⟨point, decoded, -, -⟩ := Geohash.exists_finite_of_isGeohash form
    rw [decoded] at h
    contradiction
  case h_3 => simp at h

theorem boundingBox_ne_badGeohash {operands : List Operand} {name op text : String} :
    boundingBox field operands ≠ .error (.invalidArgument name op (.badGeohash text)) := by
  intro h
  unfold boundingBox at h
  split at h
  case h_1 => contradiction
  case h_2 first second _ =>
    rw [bind_eq_error_iff] at h
    rcases h with refused | ⟨topLeft, -, h⟩
    · exact corner_ne_badGeohash refused
    · exact corner_ne_badGeohash (bind_pure_eq_error_iff.mp h)
  case h_3 => simp at h

/-- The corners of a box are the ones its operands name, in their order; none of them is a geohash,
every text among them is a latitude and a longitude, and given as operands they make the same box
again. A box, its two corners and its two corners on the plane are the same. Every text of the form
of a geohash is decoded, and none is a latitude and a longitude as well. -/
theorem boundingBox_corners (field : String) :
    (∀ operands predicate, boundingBox field operands = .ok predicate →
      ∃ topLeft bottomRight, predicate = .boundingBox field topLeft bottomRight ∧
        topLeft.IsCorner ∧ bottomRight.IsCorner ∧
        Operand.Outline operands topLeft bottomRight ∧
        boundingBox field [topLeft.operand, bottomRight.operand] = .ok predicate) ∧
    (∀ operand location location', Operand.Marks operand location →
      Operand.Marks operand location' → location = location') ∧
    (∀ a b : GeoPoint, ∃ predicate, boundingBox field [.geoBox ⟨a, b⟩] = .ok predicate ∧
      boundingBox field [.geoPoint a, .geoPoint b] = .ok predicate ∧
      boundingBox field [.planePoint ⟨a.lon, a.lat⟩, .planePoint ⟨b.lon, b.lat⟩]
        = .ok predicate) ∧
    (∀ text, Geohash.isGeohash text = true → ∃ point, Geohash.decode? text = some point) ∧
    (∀ operands name op text,
      boundingBox field operands ≠ .error (.invalidArgument name op (.badGeohash text))) ∧
    ∀ text, ¬ (Geohash.isGeohash text = true ∧ PointText.isLatLon text = true) := by
  refine ⟨?built, fun _ _ _ => Operand.Marks.unique, fun a b => ⟨_, rfl, rfl, rfl⟩, ?decoded,
    fun _ _ _ _ => boundingBox_ne_badGeohash, ?apart⟩
  case built =>
    intro operands predicate h
    obtain ⟨topLeft, bottomRight, outline, rfl⟩ := boundingBox_eq_ok_iff.mp h
    obtain ⟨north, south⟩ := outline.isCorner
    refine ⟨topLeft, bottomRight, rfl, north, south, outline, ?_⟩
    exact boundingBox_eq_ok_iff.mpr ⟨topLeft, bottomRight, .corners north.marks south.marks, rfl⟩
  case decoded =>
    intro text form
    obtain ⟨point, decoded, -, -⟩ := Geohash.exists_finite_of_isGeohash form
    exact ⟨point, decoded⟩
  case apart =>
    rintro text ⟨form, latLon⟩
    rw [PointText.isLatLon_of_isGeohash form] at latLon
    contradiction

theorem boundingBox_corners_of_geohashes :
    let box : GeoPredicate := .boundingBox "place" (.text "22.5,22.5") (.text "-22.5,-22.5")
    boundingBox "place" [.text "s", .text "7"] = .ok box ∧
      PointText.isLatLon "22.5,22.5" = true ∧
      boundingBox "place" [.text "22.5,22.5", .text "-22.5,-22.5"] = .ok box := by
  intro box
  have marks {letters written : String} (form : Geohash.isGeohash letters = true)
      (decoded : (Geohash.decode? letters).map GeoPoint.text = some written) :
      Operand.Marks (.text letters) (.text written) := by
    obtain ⟨point, found, rfl⟩ := Option.map_eq_some_iff.mp decoded
    exact .geohash form found
  have built : boundingBox "place" [.text "s", .text "7"] = .ok box :=
    boundingBox_eq_ok_iff.mpr ⟨_, _, .corners (marks (by decide) (by decide +kernel))
      (marks (by decide) (by decide +kernel)), rfl⟩
  obtain ⟨topLeft, bottomRight, same, north, -, -, again⟩ :=
    (boundingBox_corners "place").1 _ _ built
  obtain ⟨-, rfl, rfl⟩ := GeoPredicate.boundingBox.inj same
  exact ⟨built, north, again⟩

end GeoFilter

end SearchCriteria
