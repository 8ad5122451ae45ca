import SearchCriteria.Proofs.Corners
import SearchCriteria.Proofs.Numerals

/-!
# Texts in locations

A text that a predicate has for a location is two numerals with one comma between them, and a
geohash in it has one to twelve letters. The texts that are given are taken with the digits of all
scripts, and they are passed on as they are. So a text with a digit of another script than ASCII is
a latitude and a longitude of which one is not a number. Decoded geohashes never have such a digit.
-/

namespace SearchCriteria

open Text

namespace PointText

variable {text : List Char}

/-- Two parts with one comma between them. White space around the parts does not belong to them. -/
def IsPair (part : List Char → Prop) (written : String) : Prop :=
  ∃ lat lon, written.toList = lat ++ ',' :: lon ∧ ',' ∉ lat ∧ ',' ∉ lon ∧
    part (trimmed lat) ∧ part (trimmed lon)

/-- A number can be read from a text. -/
def IsNumber (text : List Char) : Prop :=
  (Double.read? Double.doubleFormat (String.ofList text)).isSome = true

theorem IsCoordinate.isNumeral_trimmed (h : IsCoordinate text) :
    IsNumeral isDecimalDigit (trimmed text) ∧ ',' ∉ text := by
  obtain ⟨before, numeral, after, rfl, ahead, isNumeral, behind⟩ := h
  have solid : ∀ c ∈ numeral, isBlank c = false := by
    intro c mem
    rcases isNumeral.mem_cases mem with rfl | rfl | digit
    · decide
    · decide
    · exact isBlank_of_isDecimalDigit digit
  rw [trimmed_of_solid ahead isNumeral.ne_nil solid behind]
  refine ⟨isNumeral, fun mem => ?_⟩
  rcases List.mem_append.mp mem with mem | mem
  · exact absurd (ahead ',' mem) (by decide)
  rcases List.mem_append.mp mem with mem | mem
  · rcases isNumeral.mem_cases mem with minus | point | digit
    · exact absurd minus (by decide)
    · exact absurd point (by decide)
    · exact absurd digit (by decide)
  · exact absurd (behind ',' mem) (by decide)

theorem isPair_of_isLatLon {written : String} (h : isLatLon written = true) :
    IsPair (IsNumeral isDecimalDigit) written := by
  obtain ⟨lat, lon, split, first, second⟩ := isLatLon_iff.mp h
  exact ⟨lat, lon, split, first.isNumeral_trimmed.2, second.isNumeral_trimmed.2,
    first.isNumeral_trimmed.1, second.isNumeral_trimmed.1⟩

/-- A text that has one comma is split in one way. -/
theorem eq_of_split {lat lon lat' lon' : List Char} (h : lat ++ ',' :: lon = lat' ++ ',' :: lon')
    (first : ',' ∉ lat) (first' : ',' ∉ lat') : lat = lat' ∧ lon = lon' := by
  have before {front back : List Char} (none : ',' ∉ front) :
      (front ++ ',' :: back).takeWhile (· != ',') = front := by
    rw [List.takeWhile_append_of_pos, List.takeWhile_cons_of_neg (by decide), List.append_nil]
    intro c mem
    exact bne_iff_ne.mpr fun comma => none (comma ▸ mem)
  have front : lat = lat' := by
    rw [← before first, h, before first']
  rw [front] at h
  exact ⟨front, (List.cons.inj (List.append_cancel_left h)).2⟩

/-- What each part of a pair is exactly if it has no foreign digit, both parts are exactly if the
whole has none. -/
theorem IsPair.iff_isNative {part part' : List Char → Prop} {written : String}
    (h : IsPair part written) (native : ∀ text, part text → (part' text ↔ IsNative text)) :
    IsPair part' written ↔ IsNative written.toList := by
  obtain ⟨lat, lon, split, first, second, isPart, isPart'⟩ := h
  have comma : isForeignDigit ',' = false := by decide
  calc IsPair part' written
      ↔ part' (trimmed lat) ∧ part' (trimmed lon) := by
        constructor
        · rintro ⟨lat', lon', split', first', -, both⟩
          obtain ⟨rfl, rfl⟩ := eq_of_split (split.symm.trans split') first first'
          exact both
        · intro both
          exact ⟨lat, lon, split, first, second, both⟩
    _ ↔ IsNative lat ∧ IsNative lon := by
        rw [native _ isPart, native _ isPart', isNative_trimmed_iff, isNative_trimmed_iff]
    _ ↔ IsNative written.toList := by
        rw [split, isNative_append, isNative_cons, and_iff_right comma]

end PointText

/-- The locations of a predicate. -/
def GeoPredicate.locations : GeoPredicate → List Location
  | .distance _ centre _ _ => [centre]
  | .boundingBox _ topLeft bottomRight => [topLeft, bottomRight]
  | .shape .. => []

open PointText

/-- The text of a point has the digits that numbers are read from. -/
theorem GeoPoint.isNative_text {p : GeoPoint} (lat : p.lat.isFinite = true)
    (lon : p.lon.isFinite = true) : IsNative p.text.toList := by
  rw [GeoPoint.text, String.toList_ofList, isNative_append, isNative_cons]
  exact ⟨(Double.isNumeral_plainChars lat).isNative, by decide,
    (Double.isNumeral_plainChars lon).isNative⟩

namespace GeoFilter

variable {field : String} {operand : Operand} {location : Location}

theorem eq_text_of_marks {written : String} (h : operand.Marks (.text written)) :
    isLatLon written = true ∧ (IsNative written.toList ∨ operand = .text written) := by
  refine ⟨h.isCorner, ?_⟩
  cases h with
  | text => exact .inr rfl
  | geohash form decoded =>
    obtain ⟨point, decoded', lat, lon⟩ := Geohash.exists_finite_of_isGeohash form
    cases decoded.symm.trans decoded'
    exact .inl (GeoPoint.isNative_text lat lon)

theorem centre_cases (h : centre field operand = .ok location) :
    operand.Marks location ∨ ∃ hash, location = .geohash hash ∧ Geohash.isGeohash hash = true := by
  unfold centre at h
  split at h
  case h_1 plain =>
    cases h
    exact .inl (plainLocation?_marks plain)
  case h_2 hash _ found =>
    cases h
    exact .inr ⟨hash, rfl, (geohash?_eq_some_iff.mp found).2⟩
  case h_3 => contradiction

/-- Where the locations of a predicate come from: a point that is given as such, one of several
operands, or a geohash that is passed on. -/
inductive Locates (operand : Operand) : Location → Prop where
  | latLon (point : GeoPoint) : Locates operand (.latLon point)
  | marked {operands : List Operand} {part : Operand} {location : Location}
      (several : operand = .sequence operands) (mem : part ∈ operands)
      (marks : part.Marks location) : Locates operand location
  | geohash {hash : String} (form : Geohash.isGeohash hash = true) : Locates operand (.geohash hash)

theorem distance_locates {point length : Operand} {predicate : GeoPredicate}
    (h : distance field point length = .ok predicate) :
    ∀ location ∈ predicate.locations, Locates (.sequence [point, length]) location := by
  simp only [distance, bind_eq_ok_iff, pure_eq_ok_iff] at h
  obtain ⟨location, found, radius, -, rfl⟩ := h
  intro location' mem
  rw [List.mem_singleton.mp mem]
  rcases centre_cases found with marks | ⟨hash, rfl, form⟩
  · exact .marked rfl List.mem_cons_self marks
  · exact .geohash form

theorem boundingBox_locates {operand : Operand} {operands : List Operand} {predicate : GeoPredicate}
    (several : operand = .sequence operands ∨ operands = [operand])
    (h : boundingBox field operands = .ok predicate) :
    ∀ location ∈ predicate.locations, Locates operand location := by
  obtain ⟨topLeft, bottomRight, outline, rfl⟩ := boundingBox_eq_ok_iff.mp h
  intro location mem
  cases outline with
  | box value =>
    rcases List.mem_pair.mp mem with rfl | rfl
    · exact .latLon _
    · exact .latLon _
  | corners north south =>
    have several : operand = .sequence _ := several.resolve_right (by simp)
    rcases List.mem_pair.mp mem with rfl | rfl
    · exact .marked several List.mem_cons_self north
    · exact .marked several (List.mem_cons_of_mem _ (List.mem_singleton_self _)) south

theorem build_locates {entry : Entry} {predicate : GeoPredicate}
    (h : build field entry = .ok predicate) :
    ∀ location ∈ predicate.locations, Locates entry.operand location := by
  obtain ⟨_, -, h⟩ := bind_eq_ok_iff.mp h
  split at h
  case h_1 =>
    split at h
    case h_1 same =>
      rw [same]
      exact distance_locates h
    case h_2 => contradiction
  case h_2 =>
    split at h
    case h_1 same => exact boundingBox_locates (.inl same) h
    case h_2 => exact boundingBox_locates (.inr rfl) h
  case h_7 => contradiction
  -- What is left are the relations of shapes, which have no locations.
  all_goals
    obtain ⟨relation, -, h⟩ := bind_eq_ok_iff.mp h
    unfold shape at h
    split at h <;> cases h
    exact nofun

end GeoFilter

/-- The text of a location is two numerals with one comma between them. They are written in ASCII
digits, and numbers can be read from them, exactly if no digit is of another script; and a text with
such a digit stands among the operands that were given. -/
structure Location.IsWritten (operand : Operand) (written : String) : Prop where
  pair : IsPair (IsNumeral isDecimalDigit) written
  ascii : IsPair (IsNumeral Char.isDigit) written ↔ IsNative written.toList
  readable : IsPair IsNumber written ↔ IsNative written.toList
  given : ¬ IsNative written.toList →
    ∃ operands, operand = .sequence operands ∧ .text written ∈ operands

namespace GeoFilter

variable {field : String}

theorem Locates.isWritten {operand : Operand} {written : String}
    (h : Locates operand (.text written)) : Location.IsWritten operand written := by
  cases h with
  | @marked operands part _ several mem marks =>
    obtain ⟨latLon, origin⟩ := eq_text_of_marks marks
    have pair := isPair_of_isLatLon latLon
    refine ⟨pair, pair.iff_isNative fun _ => IsNumeral.native_iff,
      pair.iff_isNative fun _ numeral => numeral.read?_isSome_iff _, ?_⟩
    intro foreign
    exact ⟨operands, several, origin.resolve_left foreign ▸ mem⟩

/-- Every text that a built predicate has for a location is two numerals with one comma between
them, from which numbers can be read unless a digit is of another script, and every geohash has one
to twelve letters of the alphabet. -/
theorem build_locations {entry : Entry} {predicate : GeoPredicate}
    (h : build field entry = .ok predicate) :
    (∀ written, .text written ∈ predicate.locations →
      Location.IsWritten entry.operand written) ∧
    (∀ letters, .geohash letters ∈ predicate.locations →
      1 ≤ letters.toList.length ∧ letters.toList.length ≤ 12 ∧
        ∀ c ∈ letters.toList, c ∈ Geohash.alphabet) := by
  constructor
  case left =>
    intro written mem
    exact (build_locates h _ mem).isWritten
  case right =>
    intro letters mem
    cases build_locates h _ mem with
    | marked _ _ marks => exact absurd marks.isCorner id
    | geohash form => exact Geohash.isGeohash_iff.mp form

/-- A text in Arabic-Indic digits is taken and passed on, but it is no pair of numbers. -/
theorem build_locations_foreign :
    let entry : Entry := ⟨.within, .sequence [.text "١,٢", .text "1km"]⟩
    build "place" entry = .ok (.distance "place" (.text "١,٢") "1km" .plane) ∧
      IsPair (IsNumeral isDecimalDigit) "١,٢" ∧ ¬ IsPair (IsNumeral Char.isDigit) "١,٢" ∧
      ¬ IsPair IsNumber "١,٢" := by
  intro entry
  have built : build "place" entry = .ok (.distance "place" (.text "١,٢") "1km" .plane) := rfl
  have foreign : ¬ IsNative "١,٢".toList := by
    intro native
    exact absurd (native '١' (by decide)) (by decide)
  obtain ⟨pair, ascii, readable, -⟩ := (build_locations built).1 "١,٢" (List.mem_singleton_self _)
  exact ⟨built, pair, mt ascii.mp foreign, mt readable.mp foreign⟩

end GeoFilter

end SearchCriteria
