import Mathlib.Data.List.Forall2
import SearchCriteria.Geo.Geohash
import SearchCriteria.Proofs.Exactness

/-!
# Geohashes and their cells

The ranges that tell a geohash and the alphabet that decodes one hold the same letters, so every
text of the form of a geohash has a point. The bits of a geohash halve the degrees of the earth,
and as long as there are few enough of them no middle is rounded: a cell is one of equal parts, and
its centre lies half way between their ends.
-/

namespace SearchCriteria.Geohash

/-! ## Letters -/

/-- The ranges hold the letters of the alphabet and nothing else. -/
theorem isLetter_iff {c : Char} : isLetter c = true ↔ c ∈ alphabet := by
  constructor
  · intro letter
    -- Above z there is no range, so finitely many characters are left.
    have small : c.toNat < 123 := by
      simp only [isLetter, List.any_eq_true, Bool.and_eq_true, decide_eq_true_eq] at letter
      obtain ⟨range, mem, -, below⟩ := letter
      have last : range.2.toNat < 123 :=
        (by decide : ∀ range ∈ letterRanges, range.2.toNat < 123) range mem
      exact Nat.lt_of_le_of_lt (Char.le_def.mp below) last
    have known : ∀ n < 123, isLetter (Char.ofNat n) = true → Char.ofNat n ∈ alphabet := by decide
    rw [← Char.ofNat_toNat c] at letter ⊢
    exact known c.toNat small letter
  · exact List.all_eq_true.mp (by decide : alphabet.all isLetter = true) c

theorem isGeohash_iff {text : String} :
    isGeohash text = true ↔
      1 ≤ text.toList.length ∧ text.toList.length ≤ 12 ∧ ∀ c ∈ text.toList, c ∈ alphabet := by
  simp only [isGeohash, Bool.and_eq_true, decide_eq_true_eq, List.all_eq_true, isLetter_iff,
    and_assoc]

theorem letterBits?_isSome_iff {c : Char} : (letterBits? c).isSome = true ↔ c ∈ alphabet := by
  rw [letterBits?, Option.isSome_map, List.isSome_idxOf?]

theorem length_of_letterBits? {c : Char} {bits : List Bool} (h : letterBits? c = some bits) :
    bits.length = 5 := by
  obtain ⟨index, -, rfl⟩ := Option.map_eq_some_iff.mp h
  rfl

theorem bits?_nil : bits? [] = some [] := rfl

theorem bits?_cons_eq_some_iff {c : Char} {rest : List Char} {bits : List Bool} :
    bits? (c :: rest) = some bits ↔
      ∃ own others, letterBits? c = some own ∧ bits? rest = some others ∧ bits = own ++ others := by
  simp only [bits?, List.mapM_cons]
  cases letterBits? c with
  | none => simp
  | some own => cases rest.mapM letterBits? <;> simp [eq_comm]

/-- A row of letters has bits if each letter has. -/
theorem exists_bits?_iff {letters : List Char} :
    (∃ bits, bits? letters = some bits) ↔ ∀ c ∈ letters, c ∈ alphabet := by
  induction letters with
  | nil => simp [bits?_nil]
  | cons c rest ih =>
    rw [List.forall_mem_cons, ← letterBits?_isSome_iff, Option.isSome_iff_exists, ← ih]
    simp only [bits?_cons_eq_some_iff]
    constructor
    · rintro ⟨bits, own, others, first, later, -⟩
      exact ⟨⟨own, first⟩, others, later⟩
    · rintro ⟨⟨own, first⟩, others, later⟩
      exact ⟨_, own, others, first, later, rfl⟩

theorem length_of_bits? {letters : List Char} {bits : List Bool} (h : bits? letters = some bits) :
    bits.length = 5 * letters.length := by
  induction letters generalizing bits with
  | nil =>
    cases h
    rfl
  | cons c rest ih =>
    obtain ⟨own, others, first, later, rfl⟩ := bits?_cons_eq_some_iff.mp h
    rw [List.length_append, length_of_letterBits? first, ih later, List.length_cons]
    omega

/-- A text has a point if it has letters and all of them are letters of the alphabet. -/
theorem exists_decode?_iff {text : String} :
    (∃ point, decode? text = some point) ↔
      text.toList ≠ [] ∧ ∀ c ∈ text.toList, c ∈ alphabet := by
  rw [decode?]
  split
  case isTrue empty => simp [empty]
  case isFalse some => simp [some, ← exists_bits?_iff]

/-! ## Parts of a span of degrees -/

/-- The marks on the degrees from `-span` to `span`, counted from the lower end, two for each of
`2 ^ n` equal parts: where the part begins and its middle. -/
def mark (span n k : Nat) : ℚ :=
  -span + k * span / 2 ^ n

theorem mark_zero (span k : Nat) : mark span 0 k = -span + k * span := by
  rw [mark, pow_zero, div_one]

theorem mark_succ (span n k : Nat) : mark span (n + 1) (2 * k) = mark span n k := by
  rw [mark, mark, pow_succ, Nat.cast_mul, Nat.cast_ofNat]
  field_simp

theorem mark_add_mark (span n k : Nat) :
    mark span n (2 * k) + mark span n (2 * k + 2) = mark (2 * span) n (2 * k + 1) := by
  simp only [mark]
  push_cast
  field_simp
  ring

theorem mark_half (span n k : Nat) : mark (2 * span) n k / 2 = mark span n k := by
  simp only [mark]
  push_cast
  field_simp

/-- A double has bits enough for a mark. -/
theorem fits_mark {span n k : Nat} (degrees : span ≤ 360) (few : n ≤ 40) (inside : k ≤ 2 * 2 ^ n) :
    Double.Fits (mark span n k) := by
  have fraction : mark span n k = (((k - 2 ^ n) * span : ℤ) : ℚ) / 2 ^ n := by
    rw [mark]
    push_cast
    field_simp
    ring
  have distance : ((k : ℤ) - 2 ^ n).natAbs ≤ 2 ^ n := by
    have cast : ((2 ^ n : ℕ) : ℤ) = 2 ^ n := by norm_cast
    omega
  rw [fraction]
  refine Double.fits_div ?_ (by omega)
  calc ((k - 2 ^ n) * span : ℤ).natAbs
      = ((k : ℤ) - 2 ^ n).natAbs * span := by rw [Int.natAbs_mul, Int.natAbs_natCast]
    _ ≤ 2 ^ 40 * 360 :=
      Nat.mul_le_mul (distance.trans (Nat.pow_le_pow_right Nat.two_pos few)) degrees
    _ < 2 ^ 53 := by decide

namespace Interval

/-- The interval is the part with the number `k` among `2 ^ n` equal parts of the degrees from
`-span` to `span`. -/
structure IsPart (i : Interval) (span n k : Nat) : Prop where
  low : i.low.IsRat (mark span n (2 * k))
  high : i.high.IsRat (mark span n (2 * k + 2))
  inside : k < 2 ^ n

variable {i : Interval} {span n k : Nat}

theorem IsPart.middle (h : i.IsPart span n k) (degrees : span ≤ 180) (few : n ≤ 40) :
    i.middle.IsRat (mark span n (2 * k + 1)) := by
  have inside := h.inside
  have sum := mark_add_mark span n k
  have centre := h.low.midpoint h.high
  rw [sum, mark_half] at centre
  exact centre (fits_mark (by omega) few (by omega)) (fits_mark (by omega) few (by omega))

/-- The whole span is a part of itself. -/
theorem isPart_whole {span : Nat} (degrees : span ≤ 180) :
    IsPart ⟨.ofInt (-span), .ofInt span⟩ span 0 0 where
  low := by
    rw [mark_zero]
    simpa using Double.isRat_ofInt (n := -span) (by omega)
  high := by
    have top : mark span 0 (2 * 0 + 2) = span := by
      rw [mark_zero]
      push_cast
      ring
    rw [top]
    simpa using Double.isRat_ofInt (n := span) (by omega)
  inside := Nat.one_pos

/-- Half of a part is a part of the next size. -/
theorem IsPart.halve (h : i.IsPart span n k) (degrees : span ≤ 180) (few : n ≤ 40) (upper : Bool) :
    (i.halve upper).IsPart span (n + 1) (2 * k + upper.toNat) := by
  have inside := h.inside
  have middle := h.middle degrees few
  have power : 2 ^ (n + 1) = 2 * 2 ^ n := Nat.pow_succ'
  cases upper with
  | false =>
    refine ⟨?_, ?_, ?_⟩
    · exact (mark_succ span n (2 * k)).symm ▸ h.low
    · exact (mark_succ span n (2 * k + 1)).symm ▸ middle
    · rw [Bool.toNat_false]
      omega
  | true =>
    refine ⟨?_, ?_, ?_⟩
    · exact (mark_succ span n (2 * k + 1)).symm ▸ middle
    · exact (mark_succ span n (2 * k + 2)).symm ▸ h.high
    · rw [Bool.toNat_true]
      omega

end Interval

/-- A number with more bits behind it. -/
def appendBits (k : Nat) (bits : List Bool) : Nat :=
  bits.foldl (fun n bit => 2 * n + bit.toNat) k

def Interval.narrow (i : Interval) (bits : List Bool) : Interval :=
  bits.foldl Interval.halve i

/-- As many bits as a double can hold lead from part to part without rounding. -/
theorem Interval.IsPart.narrow {i : Interval} {span n k : Nat} (bits : List Bool)
    (h : i.IsPart span n k) (degrees : span ≤ 180) (few : n + bits.length ≤ 40) :
    (i.narrow bits).IsPart span (n + bits.length) (appendBits k bits) := by
  induction bits generalizing i n k with
  | nil => exact h
  | cons bit rest ih =>
    rw [List.length_cons] at few
    rw [List.length_cons, ← Nat.add_assoc, Nat.add_right_comm]
    exact ih (h.halve degrees (by omega) bit) (by omega)

/-! ## Cells -/

/-- The first, the third, the fifth and so on. -/
def everyOther : List Bool → List Bool
  | [] => []
  | [bit] => [bit]
  | bit :: _ :: rest => bit :: everyOther rest

theorem everyOther_cons (bit : Bool) (rest : List Bool) :
    everyOther (bit :: rest) = bit :: everyOther rest.tail := by
  cases rest <;> rfl

theorem length_everyOther (bits : List Bool) :
    (everyOther bits).length = (bits.length + 1) / 2 := by
  induction bits using everyOther.induct with
  | case1 => rfl
  | case2 bit => simp [everyOther]
  | case3 bit other rest ih =>
    rw [everyOther, List.length_cons, ih, List.length_cons, List.length_cons]
    omega

/-- The bits that halve the longitudes. -/
def eastBits (bits : List Bool) : List Bool := everyOther bits

/-- The bits that halve the latitudes. -/
def northBits (bits : List Bool) : List Bool := everyOther bits.tail

theorem Cell.narrow_eq (cell : Cell) (bits : List Bool) :
    cell.narrow bits =
      { lat := cell.lat.narrow (northBits bits), lon := cell.lon.narrow (eastBits bits) } := by
  induction cell, bits using Cell.narrow.induct with
  | case1 cell => rfl
  | case2 cell east => rfl
  | case3 cell east north rest ih =>
    have first : northBits (east :: north :: rest) = north :: northBits rest :=
      everyOther_cons north rest
    rw [Cell.narrow, ih, first]
    rfl

/-- The point of a geohash lies in the middle of the parts that its bits count. -/
theorem isRat_of_decode? {text : String} {point : GeoPoint} (few : text.toList.length ≤ 12)
    (decoded : decode? text = some point) :
    ∃ bits, bits? text.toList = some bits ∧
      point.lat.IsRat (mark 90 (northBits bits).length (2 * appendBits 0 (northBits bits) + 1)) ∧
      point.lon.IsRat (mark 180 (eastBits bits).length (2 * appendBits 0 (eastBits bits) + 1)) := by
  rw [decode?] at decoded
  split at decoded
  case isTrue => contradiction
  obtain ⟨bits, found, rfl⟩ := Option.map_eq_some_iff.mp decoded
  have count := length_of_bits? found
  have east : (eastBits bits).length ≤ 30 := by
    rw [eastBits, length_everyOther]
    omega
  have north : (northBits bits).length ≤ 30 := by
    rw [northBits, length_everyOther, List.length_tail]
    omega
  have lat := (Interval.isPart_whole (by decide : 90 ≤ 180)).narrow (northBits bits) (by decide)
    (by omega)
  have lon := (Interval.isPart_whole (by decide : 180 ≤ 180)).narrow (eastBits bits) (by decide)
    (by omega)
  rw [Nat.zero_add] at lat lon
  refine ⟨bits, found, ?_, ?_⟩
  · rw [Cell.narrow_eq]
    exact lat.middle (by decide) (by omega)
  · rw [Cell.narrow_eq]
    exact lon.middle (by decide) (by omega)

/-- What has the form of a geohash has a point, and its coordinates are finite. -/
theorem exists_finite_of_isGeohash {text : String} (h : isGeohash text = true) :
    ∃ point, decode? text = some point ∧
      point.lat.isFinite = true ∧ point.lon.isFinite = true := by
  obtain ⟨nonempty, few, letters⟩ := isGeohash_iff.mp h
  obtain ⟨point, decoded⟩ := exists_decode?_iff.mpr ⟨List.ne_nil_of_length_pos nonempty, letters⟩
  obtain ⟨bits, -, lat, lon⟩ := isRat_of_decode? few decoded
  exact ⟨point, decoded, lat.isFinite, lon.isFinite⟩

end SearchCriteria.Geohash
