import SearchCriteria.Proofs.Geohash

/-!
# Points in the middle of cells

The bits of a geohash are numbered through all of its letters. Those at even positions number, from
the west, the part of the longitudes that its cell spans, and those at odd positions, from the
south, the part of the latitudes. The point of a geohash lies half way between the ends of both
parts. A longer geohash has its parts within those of each of its beginnings, so its point lies
inside of their cells, and since the two numbers say all bits, geohashes of one length have
different points. -/

namespace SearchCriteria

/-- A number has one value. -/
theorem Double.IsRat.unique {x : Double} {value value' : ℚ} (h : x.IsRat value)
    (h' : x.IsRat value') : value = value' := by
  obtain ⟨dyadic, found, rfl⟩ := h
  obtain ⟨dyadic', found', rfl⟩ := h'
  rw [Option.some.inj (found.symm.trans found')]

namespace Geohash

/-! ## Numbered bits -/

/-- The bit at a position of a geohash. Five bits stand for a letter, the highest first, and they
are those of the place of the letter in the alphabet. -/
def bitAt (letters : List Char) (position : Nat) : Bool :=
  letters[position / 5]?.any fun c => (alphabet.idxOf c).testBit (4 - position % 5)

/-- Every other bit of a geohash, from a position on. -/
def bitsFrom (start : Nat) (letters : List Char) : List Bool :=
  (List.range ((5 * letters.length + 1 - start) / 2)).map fun k => bitAt letters (2 * k + start)

/-- The bits at even positions, which halve the longitudes. -/
def evenBits (letters : List Char) : List Bool := bitsFrom 0 letters

/-- The bits at odd positions, which halve the latitudes. -/
def oddBits (letters : List Char) : List Bool := bitsFrom 1 letters

theorem bitAt_cons {c : Char} {letters : List Char} {position : Nat} (h : position < 5) :
    bitAt (c :: letters) position = (alphabet.idxOf c).testBit (4 - position) := by
  have first : position / 5 = 0 := Nat.div_eq_of_lt h
  rw [bitAt, first, Nat.mod_eq_of_lt h]
  rfl

theorem bitAt_cons_add (c : Char) (letters : List Char) (position : Nat) :
    bitAt (c :: letters) (5 + position) = bitAt letters position := by
  have later : (5 + position) / 5 = position / 5 + 1 := by omega
  have place : (5 + position) % 5 = position % 5 := by omega
  rw [bitAt, later, place, List.getElem?_cons_succ, bitAt]

/-- The bits of a beginning are bits of the whole. -/
theorem bitAt_append {letters : List Char} (more : List Char) {position : Nat}
    (h : position < 5 * letters.length) :
    bitAt (letters ++ more) position = bitAt letters position := by
  have inside : position / 5 < letters.length := by omega
  rw [bitAt, List.getElem?_append_left inside, bitAt]

theorem letterBits?_eq {c : Char} {bits : List Bool} (h : letterBits? c = some bits) :
    bits = (List.range 5).map fun k => (alphabet.idxOf c).testBit (4 - k) := by
  obtain ⟨index, found, rfl⟩ := Option.map_eq_some_iff.mp h
  have place : alphabet.idxOf c = index := by
    rw [List.idxOf_eq_getD_idxOf?, found]
    rfl
  simp [place, List.range_succ, Nat.testBit_eq_decide_div_mod_eq, Bool.beq_eq_decide_eq]

/-- The bits of a row of letters are those at its positions. -/
theorem bits?_eq {letters : List Char} {bits : List Bool} (h : bits? letters = some bits) :
    bits = (List.range (5 * letters.length)).map (bitAt letters) := by
  induction letters generalizing bits with
  | nil =>
    cases h
    rfl
  | cons c rest ih =>
    obtain ⟨own, others, first, later, rfl⟩ := bits?_cons_eq_some_iff.mp h
    have split : 5 * (c :: rest).length = 5 + 5 * rest.length := by
      rw [List.length_cons]
      omega
    have head : (List.range 5).map (fun k => (alphabet.idxOf c).testBit (4 - k)) =
        (List.range 5).map (bitAt (c :: rest)) := by
      apply List.map_congr_left
      intro k mem
      exact (bitAt_cons (List.mem_range.mp mem)).symm
    have tail : (List.range (5 * rest.length)).map (bitAt rest) =
        (List.range (5 * rest.length)).map (bitAt (c :: rest) ∘ (5 + ·)) := by
      apply List.map_congr_left
      intro k _
      exact (bitAt_cons_add c rest k).symm
    rw [split, List.range_add, List.map_append, List.map_map, letterBits?_eq first, ih later, head,
      tail]

theorem getElem?_map_range (bit : Nat → Bool) (n k : Nat) :
    ((List.range n).map bit)[k]? = if k < n then some (bit k) else none := by
  rw [List.getElem?_map]
  split
  case isTrue inside => rw [List.getElem?_range inside, Option.map_some]
  case isFalse outside => rw [List.getElem?_eq_none (by simpa using outside), Option.map_none]

@[simp] theorem length_bitsFrom (start : Nat) (letters : List Char) :
    (bitsFrom start letters).length = (5 * letters.length + 1 - start) / 2 := by
  rw [bitsFrom, List.length_map, List.length_range]

theorem getElem?_bitsFrom (start : Nat) (letters : List Char) (k : Nat) :
    (bitsFrom start letters)[k]? =
      if 2 * k + start < 5 * letters.length then some (bitAt letters (2 * k + start))
      else none := by
  rw [bitsFrom, getElem?_map_range]
  have inside : k < (5 * letters.length + 1 - start) / 2 ↔ 2 * k + start < 5 * letters.length := by
    omega
  simp only [inside]

/-- The bits of a longer geohash begin with those of its beginning. -/
theorem bitsFrom_mono {letters longer : List Char} (start : Nat) (h : letters <+: longer) :
    bitsFrom start letters <+: bitsFrom start longer := by
  obtain ⟨more, rfl⟩ := h
  apply List.prefix_iff_getElem?.mpr
  intro k short
  have known := List.getElem?_eq_getElem short
  rw [getElem?_bitsFrom] at known ⊢
  split at known
  case isTrue inside =>
    have inside' : 2 * k + start < 5 * (letters ++ more).length := by
      rw [List.length_append]
      omega
    rw [if_pos inside', bitAt_append more inside, known]
  case isFalse => contradiction

theorem getElem?_everyOther (bits : List Bool) (k : Nat) :
    (everyOther bits)[k]? = bits[2 * k]? := by
  induction bits using everyOther.induct generalizing k with
  | case1 => rfl
  | case2 bit =>
    cases k with
    | zero => rfl
    | succ k => simp [everyOther]
  | case3 bit other rest ih =>
    cases k with
    | zero => rfl
    | succ k =>
      rw [everyOther, List.getElem?_cons_succ, ih]
      rfl

theorem eastBits_eq {letters : List Char} {bits : List Bool} (h : bits? letters = some bits) :
    eastBits bits = evenBits letters := by
  apply List.ext_getElem?
  intro k
  rw [eastBits, getElem?_everyOther, bits?_eq h, evenBits, getElem?_map_range, getElem?_bitsFrom]
  rfl

theorem northBits_eq {letters : List Char} {bits : List Bool} (h : bits? letters = some bits) :
    northBits bits = oddBits letters := by
  apply List.ext_getElem?
  intro k
  rw [northBits, getElem?_everyOther, List.getElem?_tail, bits?_eq h, oddBits, getElem?_map_range,
    getElem?_bitsFrom]

/-! ## Numbers of parts -/

theorem appendBits_append (k : Nat) (bits more : List Bool) :
    appendBits k (bits ++ more) = appendBits (appendBits k bits) more :=
  List.foldl_append

/-- More bits keep a number within its part. -/
theorem appendBits_bounds (k : Nat) (bits : List Bool) :
    k * 2 ^ bits.length ≤ appendBits k bits ∧ appendBits k bits < (k + 1) * 2 ^ bits.length := by
  induction bits generalizing k with
  | nil =>
    change k * 1 ≤ k ∧ k < (k + 1) * 1
    omega
  | cons bit rest ih =>
    obtain ⟨least, most⟩ := ih (2 * k + bit.toNat)
    have single : bit.toNat ≤ 1 := Bool.toNat_le bit
    rw [List.length_cons, pow_succ']
    change _ ≤ appendBits (2 * k + bit.toNat) rest ∧ appendBits (2 * k + bit.toNat) rest < _
    constructor
    · calc k * (2 * 2 ^ rest.length) = (2 * k) * 2 ^ rest.length := by ring
        _ ≤ (2 * k + bit.toNat) * 2 ^ rest.length := Nat.mul_le_mul_right _ (by omega)
        _ ≤ appendBits (2 * k + bit.toNat) rest := least
    · calc appendBits (2 * k + bit.toNat) rest
          < (2 * k + bit.toNat + 1) * 2 ^ rest.length := most
        _ ≤ (2 * k + 2) * 2 ^ rest.length := Nat.mul_le_mul_right _ (by omega)
        _ = (k + 1) * (2 * 2 ^ rest.length) := by ring

/-- As many bits can be told from the number they make. -/
theorem appendBits_inj {k k' : Nat} {bits bits' : List Bool} (same : bits.length = bits'.length)
    (h : appendBits k bits = appendBits k' bits') : k = k' ∧ bits = bits' := by
  induction bits generalizing k k' bits' with
  | nil =>
    have none : bits' = [] := List.length_eq_zero_iff.mp same.symm
    subst none
    exact ⟨h, rfl⟩
  | cons bit rest ih =>
    match bits' with
    | bit' :: rest' =>
      obtain ⟨total, rfl⟩ := ih (Nat.succ.inj same) h
      have total : 2 * k + bit.toNat = 2 * k' + bit'.toNat := total
      have single := Bool.toNat_le bit
      have single' := Bool.toNat_le bit'
      have number : k = k' := by omega
      have last : bit.toNat = bit'.toNat := by omega
      have last : bit = bit' := by rw [← Bool.ofNat_toNat bit, last, Bool.ofNat_toNat]
      exact ⟨number, congrArg (· :: rest) last⟩

theorem mark_lt_mark {span n k k' : Nat} (some : 0 < span) (h : k < k') :
    mark span n k < mark span n k' := by
  have spanPos : (0 : ℚ) < span := Nat.cast_pos.mpr some
  have less : (k : ℚ) < k' := Nat.cast_lt.mpr h
  rw [mark, mark]
  gcongr

theorem mark_inj {span n k k' : Nat} (some : 0 < span) (h : mark span n k = mark span n k') :
    k = k' := by
  rcases Nat.lt_trichotomy k k' with less | same | greater
  · exact absurd h (mark_lt_mark some less).ne
  · exact same
  · exact absurd h (mark_lt_mark some greater).ne'

/-- A mark stays where it is when the parts are divided further. -/
theorem mark_add (span n r k : Nat) : mark span (n + r) (k * 2 ^ r) = mark span n k := by
  rw [mark, mark, pow_add]
  push_cast
  field_simp

/-- The centre of the part that bits number lies inside of the part that their beginning numbers. -/
theorem centre_inside {span : Nat} {bits longer : List Bool} (some : 0 < span)
    (h : bits <+: longer) :
    mark span bits.length (2 * appendBits 0 bits)
        < mark span longer.length (2 * appendBits 0 longer + 1) ∧
      mark span longer.length (2 * appendBits 0 longer + 1)
        < mark span bits.length (2 * appendBits 0 bits + 2) := by
  obtain ⟨more, rfl⟩ := h
  obtain ⟨least, most⟩ := appendBits_bounds (appendBits 0 bits) more
  rw [List.length_append, appendBits_append, ← mark_add span bits.length more.length,
    ← mark_add span bits.length more.length]
  constructor
  · apply mark_lt_mark some
    calc 2 * appendBits 0 bits * 2 ^ more.length
        = 2 * (appendBits 0 bits * 2 ^ more.length) := by ring
      _ < 2 * appendBits (appendBits 0 bits) more + 1 := by omega
  · apply mark_lt_mark some
    calc 2 * appendBits (appendBits 0 bits) more + 1
        < 2 * ((appendBits 0 bits + 1) * 2 ^ more.length) := by omega
      _ = (2 * appendBits 0 bits + 2) * 2 ^ more.length := by ring

/-! ## Letters that are told from their bits -/

theorem idxOf_lt {c : Char} (h : c ∈ alphabet) : alphabet.idxOf c < 2 ^ 5 :=
  List.idxOf_lt_length_of_mem h

/-- Five bits tell a letter. -/
theorem eq_of_testBit {c c' : Char} (letter : c ∈ alphabet) (letter' : c' ∈ alphabet)
    (h : ∀ k < 5, (alphabet.idxOf c).testBit (4 - k) = (alphabet.idxOf c').testBit (4 - k)) :
    c = c' := by
  apply (List.idxOf_inj letter).mp
  apply Nat.eq_of_testBit_eq
  intro i
  by_cases low : i < 5
  · have place : 4 - (4 - i) = i := by omega
    rw [← place]
    exact h (4 - i) (by omega)
  · have wide : 2 ^ 5 ≤ 2 ^ i := Nat.pow_le_pow_right Nat.two_pos (by omega)
    rw [Nat.testBit_lt_two_pow ((idxOf_lt letter).trans_le wide),
      Nat.testBit_lt_two_pow ((idxOf_lt letter').trans_le wide)]

theorem eq_of_bitAt {letters letters' : List Char} (same : letters.length = letters'.length)
    (known : ∀ c ∈ letters, c ∈ alphabet) (known' : ∀ c ∈ letters', c ∈ alphabet)
    (h : ∀ position < 5 * letters.length, bitAt letters position = bitAt letters' position) :
    letters = letters' := by
  induction letters generalizing letters' with
  | nil => exact (List.length_eq_zero_iff.mp same.symm).symm
  | cons c rest ih =>
    match letters' with
    | c' :: rest' =>
      obtain ⟨letter, known⟩ := List.forall_mem_cons.mp known
      obtain ⟨letter', known'⟩ := List.forall_mem_cons.mp known'
      rw [List.length_cons] at h
      have first : c = c' := by
        apply eq_of_testBit letter letter'
        intro k inside
        rw [← bitAt_cons inside, ← bitAt_cons inside]
        exact h k (by omega)
      have later : rest = rest' := by
        apply ih (Nat.succ.inj same) known known'
        intro position inside
        rw [← bitAt_cons_add c rest, ← bitAt_cons_add c' rest']
        exact h (5 + position) (by omega)
      rw [first, later]

/-- The bits at even and at odd positions are all bits. -/
theorem eq_of_bitsFrom {letters letters' : List Char} (same : letters.length = letters'.length)
    (known : ∀ c ∈ letters, c ∈ alphabet) (known' : ∀ c ∈ letters', c ∈ alphabet)
    (even : evenBits letters = evenBits letters') (odd : oddBits letters = oddBits letters') :
    letters = letters' := by
  have each {start k : Nat} (inside : 2 * k + start < 5 * letters.length)
      (h : bitsFrom start letters = bitsFrom start letters') :
      bitAt letters (2 * k + start) = bitAt letters' (2 * k + start) := by
    have bit := congrArg (fun bits : List Bool => bits[k]?) h
    simp only [getElem?_bitsFrom] at bit
    rw [if_pos inside, if_pos (same ▸ inside)] at bit
    exact Option.some.inj bit
  apply eq_of_bitAt same known known'
  intro position inside
  obtain ⟨k, place | place⟩ := position.even_or_odd'
  · rw [place] at inside ⊢
    exact each inside even
  · rw [place] at inside ⊢
    exact each inside odd

/-! ## Points of geohashes -/

end Geohash

/-- The coordinates of a point are these rational numbers. -/
def GeoPoint.IsAt (point : GeoPoint) (lat lon : ℚ) : Prop :=
  point.lat.IsRat lat ∧ point.lon.IsRat lon

namespace Geohash

/-- Coordinates inside of the cell of a geohash, and not on its border. The bits at odd positions
number one of `2 ^ n` equal parts of the latitudes, those at even positions one of the longitudes.
-/
structure Inside (letters : List Char) (lat lon : ℚ) : Prop where
  south : mark 90 (oddBits letters).length (2 * appendBits 0 (oddBits letters)) < lat
  north : lat < mark 90 (oddBits letters).length (2 * appendBits 0 (oddBits letters) + 2)
  west : mark 180 (evenBits letters).length (2 * appendBits 0 (evenBits letters)) < lon
  east : lon < mark 180 (evenBits letters).length (2 * appendBits 0 (evenBits letters) + 2)

/-- The latitude of the middle of a cell. -/
def centreLat (letters : List Char) : ℚ :=
  -90 + (2 * appendBits 0 (oddBits letters) + 1) * 90 / 2 ^ (oddBits letters).length

/-- The longitude of the middle of a cell. -/
def centreLon (letters : List Char) : ℚ :=
  -180 + (2 * appendBits 0 (evenBits letters) + 1) * 180 / 2 ^ (evenBits letters).length

theorem centreLat_eq (letters : List Char) :
    centreLat letters =
      mark 90 (oddBits letters).length (2 * appendBits 0 (oddBits letters) + 1) := by
  rw [centreLat, mark]
  push_cast
  rfl

theorem centreLon_eq (letters : List Char) :
    centreLon letters =
      mark 180 (evenBits letters).length (2 * appendBits 0 (evenBits letters) + 1) := by
  rw [centreLon, mark]
  push_cast
  rfl

/-- As long as nothing is rounded, the point of a geohash is the middle of its cell. -/
theorem isAt_of_decode? {text : String} {point : GeoPoint} (few : text.toList.length ≤ 12)
    (decoded : decode? text = some point) :
    point.IsAt (centreLat text.toList) (centreLon text.toList) := by
  obtain ⟨bits, found, lat, lon⟩ := isRat_of_decode? few decoded
  rw [northBits_eq found] at lat
  rw [eastBits_eq found] at lon
  rw [centreLat_eq, centreLon_eq]
  exact ⟨lat, lon⟩

/-- The middle of a cell lies inside of all cells that its geohash begins with. -/
theorem inside_of_longer {letters longer : List Char} (h : letters <+: longer) :
    Inside letters (centreLat longer) (centreLon longer) := by
  obtain ⟨south, north⟩ := centre_inside (by decide : 0 < 90) (bitsFrom_mono 1 h)
  obtain ⟨west, east⟩ := centre_inside (by decide : 0 < 180) (bitsFrom_mono 0 h)
  rw [centreLat_eq, centreLon_eq]
  exact ⟨south, north, west, east⟩

/-- The cell of no letters is the earth. -/
theorem inside_nil_iff {lat lon : ℚ} :
    Inside [] lat lon ↔ -90 < lat ∧ lat < 90 ∧ -180 < lon ∧ lon < 180 := by
  have south : mark 90 (oddBits []).length (2 * appendBits 0 (oddBits [])) = -90 := by
    norm_num [mark, oddBits, bitsFrom, appendBits]
  have north : mark 90 (oddBits []).length (2 * appendBits 0 (oddBits []) + 2) = 90 := by
    norm_num [mark, oddBits, bitsFrom, appendBits]
  have west : mark 180 (evenBits []).length (2 * appendBits 0 (evenBits [])) = -180 := by
    norm_num [mark, evenBits, bitsFrom, appendBits]
  have east : mark 180 (evenBits []).length (2 * appendBits 0 (evenBits []) + 2) = 180 := by
    norm_num [mark, evenBits, bitsFrom, appendBits]
  constructor
  · intro h
    exact ⟨south ▸ h.south, north ▸ h.north, west ▸ h.west, east ▸ h.east⟩
  · intro h
    obtain ⟨h₁, h₂, h₃, h₄⟩ := h
    exact ⟨south ▸ h₁, north ▸ h₂, west ▸ h₃, east ▸ h₄⟩

/-- Cells of the same size have their middles apart. -/
theorem eq_of_centre {letters letters' : List Char} (same : letters.length = letters'.length)
    (known : ∀ c ∈ letters, c ∈ alphabet) (known' : ∀ c ∈ letters', c ∈ alphabet)
    (lat : centreLat letters = centreLat letters') (lon : centreLon letters = centreLon letters') :
    letters = letters' := by
  have number {start span : Nat} (some : 0 < span)
      (h : mark span (bitsFrom start letters).length
          (2 * appendBits 0 (bitsFrom start letters) + 1) =
        mark span (bitsFrom start letters').length
          (2 * appendBits 0 (bitsFrom start letters') + 1)) :
      bitsFrom start letters = bitsFrom start letters' := by
    have size : (bitsFrom start letters).length = (bitsFrom start letters').length := by
      rw [length_bitsFrom, length_bitsFrom, same]
    rw [size] at h
    have centre := mark_inj some h
    have number :
        appendBits 0 (bitsFrom start letters) = appendBits 0 (bitsFrom start letters') := by
      omega
    exact (appendBits_inj size number).2
  rw [centreLat_eq, centreLat_eq] at lat
  rw [centreLon_eq, centreLon_eq] at lon
  exact eq_of_bitsFrom same known known' (number (by decide) lon) (number (by decide) lat)

/-- A text has a point if it is made of letters of the alphabet and there are some. As long as there
are at most twelve, as in whatever has the form of a geohash, the point is exactly the middle of the
cell; it lies inside of the earth and inside of the cells of all beginnings of the geohash, and no
other geohash of the same length has its coordinates. -/
theorem decode?_isAt_centre :
    (∀ text, (∃ point, decode? text = some point) ↔
      text.toList ≠ [] ∧ ∀ c ∈ text.toList, c ∈ alphabet) ∧
    (∀ text, isGeohash text = true ↔
      text.toList.length ≤ 12 ∧ ∃ point, decode? text = some point) ∧
    ∀ text point, text.toList.length ≤ 12 → decode? text = some point →
      point.IsAt (centreLat text.toList) (centreLon text.toList) ∧
      (-90 < centreLat text.toList ∧ centreLat text.toList < 90 ∧
        -180 < centreLon text.toList ∧ centreLon text.toList < 180) ∧
      (∀ letters, letters <+: text.toList →
        Inside letters (centreLat text.toList) (centreLon text.toList)) ∧
      ∀ other point', other.toList.length = text.toList.length → other ≠ text →
        decode? other = some point' → ∀ lat lon, point.IsAt lat lon → ¬ point'.IsAt lat lon := by
  refine ⟨fun text => exists_decode?_iff, ?form, ?middle⟩
  case form =>
    intro text
    rw [isGeohash_iff, exists_decode?_iff, ← List.length_pos_iff]
    constructor
    · intro h
      exact ⟨h.2.1, h.1, h.2.2⟩
    · intro h
      exact ⟨h.2.1, h.1, h.2.2⟩
  case middle =>
    intro text point few decoded
    have here := isAt_of_decode? few decoded
    refine ⟨here, inside_nil_iff.mp (inside_of_longer List.nil_prefix), ?_, ?_⟩
    · intro letters beginning
      exact inside_of_longer beginning
    · intro other point' same different decoded' lat lon at_ at'
      have there := isAt_of_decode? (same ▸ few) decoded'
      have known := (exists_decode?_iff.mp ⟨point, decoded⟩).2
      have known' := (exists_decode?_iff.mp ⟨point', decoded'⟩).2
      have sameLat := (there.1.unique at'.1).trans (at_.1.unique here.1)
      have sameLon := (there.2.unique at'.2).trans (at_.2.unique here.2)
      apply different
      exact String.toList_inj.mp (eq_of_centre same known' known sameLat sameLon)

/-- Two geohashes of three letters, which lie in the cell of their common beginning. -/
theorem decode?_isAt_centre_apart :
    ∃ point point', decode? "u4p" = some point ∧ decode? "u4r" = some point' ∧
      point.IsAt (centreLat "u4p".toList) (centreLon "u4p".toList) ∧
      Inside ['u', '4'] (centreLat "u4p".toList) (centreLon "u4p".toList) ∧
      ¬ point'.IsAt (centreLat "u4p".toList) (centreLon "u4p".toList) := by
  obtain ⟨few, point, decoded⟩ := (decode?_isAt_centre.2.1 "u4p").mp (by decide)
  obtain ⟨-, point', decoded'⟩ := (decode?_isAt_centre.2.1 "u4r").mp (by decide)
  obtain ⟨here, -, inside, apart⟩ := decode?_isAt_centre.2.2 "u4p" point few decoded
  refine ⟨point, point', decoded, decoded', here, inside _ (by decide), ?_⟩
  exact apart "u4r" point' (by decide) (by decide) decoded' _ _ here

end Geohash

end SearchCriteria
