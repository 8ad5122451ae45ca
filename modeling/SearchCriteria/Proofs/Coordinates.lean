import Mathlib.Data.List.TakeWhile
import SearchCriteria.Geo.Point
import SearchCriteria.Geo.PointText

/-!
# Numerals and points as text

What a latitude and a longitude in a text look like: two decimal numerals with white space around
them and a comma between them. Texts of that form are the ones that are taken, and every finite
number is printed as such a numeral, so the text of a point with finite coordinates is taken.
-/

namespace SearchCriteria

open Text

/-! ## Classes of characters -/

namespace Text

theorem isDecimalDigit_of_isDigit {c : Char} (h : c.isDigit = true) : isDecimalDigit c = true := by
  have range : 48 ≤ c.toNat ∧ c.toNat ≤ 57 := Char.isDigit_iff_toNat.mp h
  rw [isDecimalDigit, List.any_eq_true]
  refine ⟨0x30, by decide, ?_⟩
  simp only [Bool.and_eq_true, decide_eq_true_eq]
  omega

/-- No run of digits meets a range of white space. -/
theorem isBlank_of_isDecimalDigit {c : Char} (h : isDecimalDigit c = true) : isBlank c = false := by
  have apart : ∀ first ∈ digitZeros, ∀ range ∈ blankRanges,
      first + 10 ≤ range.1 ∨ range.2 < first := by decide
  simp only [isDecimalDigit, List.any_eq_true, Bool.and_eq_true, decide_eq_true_eq] at h
  obtain ⟨first, known, least, most⟩ := h
  refine Bool.eq_false_iff.mpr fun blank => ?_
  simp only [isBlank, List.any_eq_true, Bool.and_eq_true, decide_eq_true_eq] at blank
  obtain ⟨range, mem, low, high⟩ := blank
  have := apart first known range mem
  omega

end Text

namespace PointText

/-! ## The form of the texts -/

/-- One or more digits of a class. -/
def IsDigits (digit : Char → Bool) (text : List Char) : Prop :=
  text ≠ [] ∧ ∀ c ∈ text, digit c = true

def IsSign (text : List Char) : Prop :=
  text = [] ∨ text = ['-']

/-- Nothing, or a point with digits behind it. -/
def IsFraction (digit : Char → Bool) (text : List Char) : Prop :=
  text = [] ∨ ∃ digits, text = '.' :: digits ∧ IsDigits digit digits

/-- An optional minus sign, digits, and optionally a point with digits behind it. -/
def IsNumeral (digit : Char → Bool) (text : List Char) : Prop :=
  ∃ sign whole fraction, text = sign ++ (whole ++ fraction) ∧
    IsSign sign ∧ IsDigits digit whole ∧ IsFraction digit fraction

/-- A numeral with white space around it. -/
def IsCoordinate (text : List Char) : Prop :=
  ∃ before numeral after, text = before ++ (numeral ++ after) ∧
    (∀ c ∈ before, isBlank c = true) ∧ IsNumeral isDecimalDigit numeral ∧
    ∀ c ∈ after, isBlank c = true

theorem IsDigits.mono {digit digit' : Char → Bool} {text : List Char} (h : IsDigits digit text)
    (weaker : ∀ c, digit c = true → digit' c = true) : IsDigits digit' text :=
  ⟨h.1, fun c mem => weaker c (h.2 c mem)⟩

theorem IsNumeral.mono {digit digit' : Char → Bool} {text : List Char} (h : IsNumeral digit text)
    (weaker : ∀ c, digit c = true → digit' c = true) : IsNumeral digit' text := by
  obtain ⟨sign, whole, fraction, rfl, signed, digits, rest⟩ := h
  refine ⟨sign, whole, fraction, rfl, signed, digits.mono weaker, ?_⟩
  rcases rest with none | ⟨places, point, behind⟩
  · exact Or.inl none
  · exact Or.inr ⟨places, point, behind.mono weaker⟩

theorem IsNumeral.isCoordinate {text : List Char} (h : IsNumeral isDecimalDigit text) :
    IsCoordinate text :=
  ⟨[], text, [], by simp, by simp, h, by simp⟩

/-! ## What is skipped -/

variable {text rest : List Char}

theorem skipBlanks_split (text : List Char) :
    ∃ blanks, text = blanks ++ skipBlanks text ∧ ∀ c ∈ blanks, isBlank c = true :=
  ⟨text.takeWhile isBlank, List.takeWhile_append_dropWhile.symm, fun _ => List.mem_takeWhile_imp⟩

theorem skipSign_split (text : List Char) :
    ∃ sign, text = sign ++ skipSign text ∧ IsSign sign := by
  unfold skipSign
  split
  case h_1 rest => exact ⟨['-'], rfl, Or.inr rfl⟩
  case h_2 => exact ⟨[], rfl, Or.inl rfl⟩

theorem skipDigits?_split (h : skipDigits? text = some rest) :
    ∃ digits, text = digits ++ rest ∧ IsDigits isDecimalDigit digits := by
  cases text with
  | nil => contradiction
  | cons c others =>
    rw [skipDigits?] at h
    split at h
    case isFalse => contradiction
    case isTrue digit =>
      cases h
      refine ⟨c :: others.takeWhile isDecimalDigit, ?_, List.cons_ne_nil _ _, ?_⟩
      · rw [List.cons_append, List.takeWhile_append_dropWhile]
      · exact List.forall_mem_cons.mpr ⟨digit, fun _ => List.mem_takeWhile_imp⟩

theorem skipFraction?_split (h : skipFraction? text = some rest) :
    ∃ fraction, text = fraction ++ rest ∧ IsFraction isDecimalDigit fraction := by
  unfold skipFraction? at h
  split at h
  case h_1 others =>
    obtain ⟨digits, rfl, all⟩ := skipDigits?_split h
    exact ⟨'.' :: digits, rfl, Or.inr ⟨digits, rfl, all⟩⟩
  case h_2 =>
    cases h
    exact ⟨[], rfl, Or.inl rfl⟩

/-- What is skipped is a coordinate. -/
theorem skipCoordinate?_split (h : skipCoordinate? text = some rest) :
    ∃ coordinate, text = coordinate ++ rest ∧ IsCoordinate coordinate := by
  simp only [skipCoordinate?, Option.bind_eq_bind, Option.bind_eq_some_iff, Option.pure_def,
    Option.some.injEq] at h
  obtain ⟨afterWhole, skipped, afterFraction, skipped', rfl⟩ := h
  obtain ⟨before, split, blank⟩ := skipBlanks_split text
  obtain ⟨sign, split', signed⟩ := skipSign_split (skipBlanks text)
  obtain ⟨whole, split'', digits⟩ := skipDigits?_split skipped
  obtain ⟨fraction, rfl, places⟩ := skipFraction?_split skipped'
  obtain ⟨after, split''', blank'⟩ := skipBlanks_split afterFraction
  refine ⟨before ++ (sign ++ (whole ++ fraction) ++ after), ?_, before, _, after, rfl, blank,
    ⟨sign, whole, fraction, rfl, signed, digits, places⟩, blank'⟩
  calc text = before ++ (sign ++ (whole ++ (fraction ++ (after ++ skipBlanks afterFraction)))) := by
        rw [← split''', ← split'', ← split', ← split]
    _ = _ := by simp only [List.append_assoc]

/-! ## What is skipped as a whole

A part is skipped as a whole if what stands behind it does not continue it. -/

theorem skipDigits?_append {digits : List Char} (h : IsDigits isDecimalDigit digits)
    (ends : rest.dropWhile isDecimalDigit = rest) : skipDigits? (digits ++ rest) = some rest := by
  obtain ⟨nonempty, all⟩ := h
  cases digits with
  | nil => contradiction
  | cons c others =>
    obtain ⟨first, later⟩ := List.forall_mem_cons.mp all
    rw [List.cons_append, skipDigits?, if_pos first, List.dropWhile_append_of_pos later, ends]

theorem skipBlanks_append {blanks : List Char} (h : ∀ c ∈ blanks, isBlank c = true)
    (ends : skipBlanks rest = rest) : skipBlanks (blanks ++ rest) = rest := by
  rw [skipBlanks, List.dropWhile_append_of_pos h]
  exact ends

theorem IsDigits.exists_cons {digits : List Char} (h : IsDigits isDecimalDigit digits) :
    ∃ c others, digits = c :: others ∧ isDecimalDigit c = true := by
  obtain ⟨nonempty, all⟩ := h
  obtain ⟨c, others, rfl⟩ := List.exists_cons_of_ne_nil nonempty
  exact ⟨c, others, rfl, all c List.mem_cons_self⟩

theorem skipSign_append {sign whole : List Char} (h : IsSign sign)
    (digits : IsDigits isDecimalDigit whole) :
    skipSign (sign ++ (whole ++ rest)) = whole ++ rest := by
  rcases h with rfl | rfl
  · obtain ⟨c, others, rfl, digit⟩ := digits.exists_cons
    have other : c ≠ '-' := fun minus => absurd (minus ▸ digit) (by decide)
    rw [List.nil_append, skipSign.eq_def]
    split
    case h_1 same => exact absurd (List.cons.inj same).1 other
    case h_2 => rfl
  · rfl

theorem skipFraction?_append {fraction : List Char} (h : IsFraction isDecimalDigit fraction)
    (ends : rest.dropWhile isDecimalDigit = rest) (point : ∀ others, rest ≠ '.' :: others) :
    skipFraction? (fraction ++ rest) = some rest := by
  rcases h with rfl | ⟨digits, rfl, all⟩
  · rw [List.nil_append, skipFraction?.eq_def]
    split
    case h_1 others => exact absurd rfl (point others)
    case h_2 => rfl
  · rw [List.cons_append, skipFraction?]
    exact skipDigits?_append all ends

/-- What may stand behind a coordinate: nothing or a comma. -/
def Ends (rest : List Char) : Prop :=
  rest = [] ∨ ∃ others, rest = ',' :: others

theorem Ends.skipBlanks (h : Ends rest) : skipBlanks rest = rest := by
  rcases h with rfl | ⟨others, rfl⟩
  · rfl
  · exact List.dropWhile_cons_of_neg (by decide)

/-- The first character behind a numeral is white space or a comma. -/
theorem Ends.head_append {blanks : List Char} (h : Ends rest)
    (blank : ∀ c ∈ blanks, isBlank c = true) {c : Char} {others : List Char}
    (first : blanks ++ rest = c :: others) : isBlank c = true ∨ c = ',' := by
  cases blanks with
  | cons b more =>
    cases first
    exact Or.inl (blank _ List.mem_cons_self)
  | nil =>
    rcases h with rfl | ⟨more, rfl⟩
    · exact absurd first.symm (List.cons_ne_nil c others)
    · exact Or.inr (List.cons.inj first).1.symm

theorem dropWhile_eq_self {p : Char → Bool} {text : List Char}
    (h : ∀ c others, text = c :: others → p c = false) : text.dropWhile p = text := by
  cases text with
  | nil => rfl
  | cons c others =>
    exact List.dropWhile_cons_of_neg (Bool.eq_false_iff.mp (h c others rfl))

theorem skipBlanks_numeral {numeral : List Char} (h : IsNumeral isDecimalDigit numeral) :
    skipBlanks (numeral ++ rest) = numeral ++ rest := by
  obtain ⟨sign, whole, fraction, rfl, signed, digits, -⟩ := h
  obtain ⟨c, others, rfl, digit⟩ := digits.exists_cons
  rcases signed with rfl | rfl
  · exact List.dropWhile_cons_of_neg (Bool.eq_false_iff.mp (isBlank_of_isDecimalDigit digit))
  · exact List.dropWhile_cons_of_neg (by decide)

/-- A coordinate is skipped as a whole. -/
theorem skipCoordinate?_append {coordinate : List Char} (h : IsCoordinate coordinate)
    (ends : Ends rest) : skipCoordinate? (coordinate ++ rest) = some rest := by
  obtain ⟨before, numeral, after, rfl, blank, isNumeral, blank'⟩ := h
  obtain ⟨sign, whole, fraction, same, signed, digits, places⟩ := id isNumeral
  have behind : (after ++ rest).dropWhile isDecimalDigit = after ++ rest := by
    refine dropWhile_eq_self fun c others first => Bool.eq_false_iff.mpr fun digit => ?_
    rcases ends.head_append blank' first with isBlank | rfl
    · exact absurd isBlank (Bool.eq_false_iff.mp (isBlank_of_isDecimalDigit digit))
    · exact absurd digit (by decide)
  have point (others : List Char) : after ++ rest ≠ '.' :: others := by
    intro first
    rcases ends.head_append blank' first with isBlank | comma
    · exact absurd isBlank (by decide)
    · exact absurd comma (by decide)
  have behind' : (fraction ++ (after ++ rest)).dropWhile isDecimalDigit
      = fraction ++ (after ++ rest) := by
    rcases places with rfl | ⟨places, rfl, -⟩
    · exact behind
    · exact List.dropWhile_cons_of_neg (by decide)
  have skipped : skipBlanks (before ++ (numeral ++ (after ++ rest)))
      = sign ++ (whole ++ (fraction ++ (after ++ rest))) := by
    rw [skipBlanks_append blank (skipBlanks_numeral isNumeral), same]
    simp only [List.append_assoc]
  rw [List.append_assoc, List.append_assoc, skipCoordinate?, skipped, skipSign_append signed digits,
    skipDigits?_append digits behind']
  change (do return skipBlanks (← skipFraction? (fraction ++ (after ++ rest)))) = some rest
  rw [skipFraction?_append places behind point]
  exact congrArg some (skipBlanks_append blank' ends.skipBlanks)

/-- What is taken is two coordinates with a comma between them. -/
theorem isLatLon_iff {text : String} :
    isLatLon text = true ↔
      ∃ lat lon, text.toList = lat ++ ',' :: lon ∧ IsCoordinate lat ∧ IsCoordinate lon := by
  constructor
  · intro h
    rw [isLatLon] at h
    split at h
    case h_2 => contradiction
    case h_1 rest skipped =>
      obtain ⟨lat, split, first⟩ := skipCoordinate?_split skipped
      obtain ⟨lon, split', second⟩ := skipCoordinate?_split (beq_iff_eq.mp h)
      rw [List.append_nil] at split'
      exact ⟨lat, lon, split' ▸ split, first, second⟩
  · rintro ⟨lat, lon, split, first, second⟩
    have whole : skipCoordinate? lon = some [] := by
      simpa using skipCoordinate?_append second (Or.inl rfl)
    rw [isLatLon, split, skipCoordinate?_append first (Or.inr ⟨lon, rfl⟩)]
    exact beq_iff_eq.mpr whole

end PointText

/-! ## Printed numbers -/

namespace Decimal

open PointText

theorem exists_ne_zero_of_toDigits {n : Nat} (h : n ≠ 0) : ∃ c ∈ Nat.toDigits 10 n, c ≠ '0' := by
  refine Classical.byContradiction fun none => ?_
  have zeros : ∀ c ∈ Nat.toDigits 10 n, c = '0' := by simpa using none
  have value := Nat.ofDigitChars_ten_toDigits (n := n)
  rw [List.eq_replicate_of_mem zeros, Nat.ofDigitChars_replicate_zero, Nat.mul_zero] at value
  exact h value.symm

/-- The digits without the zeros behind them. -/
theorem isDigits_ofScaled {n : Nat} (h : n ≠ 0) (grid : Int) :
    IsDigits Char.isDigit (ofScaled n grid).digits := by
  obtain ⟨c, mem, nonzero⟩ := exists_ne_zero_of_toDigits h
  constructor
  · intro none
    rw [ofScaled, List.reverse_eq_nil_iff, List.dropWhile_eq_nil_iff] at none
    exact nonzero (beq_iff_eq.mp (none c (List.mem_reverse.mpr mem)))
  · intro c mem
    refine Nat.isDigit_of_mem_toDigits (by decide : 0 < 10) le_rfl (n := n) ?_
    exact List.mem_reverse.mp (List.dropWhile_subset _ (List.mem_reverse.mp mem))

/-- Zero does not read back as a positive number. -/
theorem readsBack_zero {significand : Nat} (h : significand ≠ 0) (exponent grid : Int) :
    readsBack significand exponent 0 grid = false := by
  have below {low : Nat} (positive : 0 < low) :
      compareScaled 0 grid low (exponent - 2) = .lt := by
    rw [compareScaled, Nat.zero_mul, Nat.zero_mul, Nat.compare_eq_lt]
    exact Nat.mul_pos (Nat.mul_pos positive (Nat.pow_pos (by decide))) (Nat.pow_pos (by decide))
  rw [readsBack]
  split
  · rw [below (by omega)]
    simp
  · rw [below (by omega)]
    simp

theorem readsBack_of_neighbour? {tie : Tie} {significand n : Nat} {exponent grid : Int}
    (h : neighbour? tie significand exponent grid = some n) :
    readsBack significand exponent n grid = true := by
  unfold neighbour? at h
  dsimp only at h
  split at h
  case h_1 => contradiction
  case h_2 low high =>
    cases h
    exact low
  case h_3 low high =>
    cases h
    exact high
  case h_4 low high =>
    split at h
    · cases h
      exact low
    · cases h
      exact high
    · cases h
      exact high
    · cases h
      split
      · exact low
      · exact high

theorem isDigits_shortest (tie : Tie) {significand : Nat} (h : significand ≠ 0) (exponent : Int) :
    IsDigits Char.isDigit (shortest tie significand exponent).digits := by
  have positive : 0 < significand := Nat.pos_of_ne_zero h
  simp only [shortest]
  generalize search : List.findSome? _ _ = found
  cases found with
  | none =>
    refine isDigits_ofScaled (Nat.pos_iff_ne_zero.mp ?_) _
    exact Nat.mul_pos (Nat.mul_pos positive (Nat.pow_pos (by decide))) (Nat.pow_pos (by decide))
  | some d =>
    obtain ⟨n, -, tried⟩ := List.exists_of_findSome?_eq_some search
    obtain ⟨m, neighbour, rfl⟩ := Option.map_eq_some_iff.mp tried
    refine isDigits_ofScaled (fun zero => ?_) _
    have reads := readsBack_of_neighbour? neighbour
    rw [zero, readsBack_zero h] at reads
    exact absurd reads Bool.false_ne_true

theorem isDigits_zero : IsDigits Char.isDigit ['0'] :=
  ⟨List.cons_ne_nil _ _, List.forall_mem_singleton.mpr rfl⟩

theorem isDigit_of_mem_zeros {n : Int} {c : Char} (h : c ∈ zeros n) : c.isDigit = true := by
  rw [List.eq_of_mem_replicate h]
  rfl

theorem plain_split {d : Decimal} (h : IsDigits Char.isDigit d.digits) :
    ∃ whole fraction, d.plain = whole ++ fraction ∧
      IsDigits Char.isDigit whole ∧ IsFraction Char.isDigit fraction := by
  obtain ⟨nonempty, all⟩ := h
  have positive : 0 < d.digits.length := List.length_pos_iff.mpr nonempty
  unfold plain
  split
  case isTrue =>
    refine ⟨['0'], '.' :: (zeros (-d.point) ++ d.digits), rfl, isDigits_zero,
      Or.inr ⟨_, rfl, List.append_ne_nil_of_right_ne_nil _ nonempty, fun c mem => ?_⟩⟩
    rcases List.mem_append.mp mem with zero | digit
    · exact isDigit_of_mem_zeros zero
    · exact all c digit
  case isFalse above =>
  split
  case isTrue =>
    refine ⟨d.digits ++ zeros (d.point - d.digits.length), [], (List.append_nil _).symm,
      ⟨List.append_ne_nil_of_left_ne_nil nonempty _, fun c mem => ?_⟩, Or.inl rfl⟩
    rcases List.mem_append.mp mem with digit | zero
    · exact all c digit
    · exact isDigit_of_mem_zeros zero
  case isFalse below =>
    refine ⟨d.digits.take d.point.toNat, '.' :: d.digits.drop d.point.toNat, rfl,
      ⟨?_, fun c mem => all c (List.mem_of_mem_take mem)⟩,
      Or.inr ⟨_, rfl, ?_, fun c mem => all c (List.mem_of_mem_drop mem)⟩⟩
    · rw [Ne, List.take_eq_nil_iff, not_or]
      exact ⟨by omega, nonempty⟩
    · rw [Ne, List.drop_eq_nil_iff]
      omega

end Decimal

open PointText

/-- A finite number is printed as a numeral, without an exponent. -/
theorem Double.isNumeral_plainChars {x : Double} (h : x.isFinite = true) :
    IsNumeral Char.isDigit x.plainChars := by
  cases x with
  | nan => contradiction
  | infinite => contradiction
  | finite negative significand exponent =>
    have signed : IsSign (Double.sign negative) := by
      cases negative
      · exact Or.inl rfl
      · exact Or.inr rfl
    rw [Double.plainChars]
    split
    case isTrue =>
      exact ⟨_, ['0'], [], rfl, signed, Decimal.isDigits_zero, Or.inl rfl⟩
    case isFalse nonzero =>
      obtain ⟨whole, fraction, split, digits, places⟩ :=
        Decimal.plain_split (Decimal.isDigits_shortest .up nonzero exponent)
      exact ⟨_, whole, fraction, by rw [split], signed, digits, places⟩

/-- The text of a point is taken as a latitude and a longitude. -/
theorem GeoPoint.isLatLon_text {p : GeoPoint} (lat : p.lat.isFinite = true)
    (lon : p.lon.isFinite = true) : isLatLon p.text = true := by
  have coordinate {x : Double} (h : x.isFinite = true) : IsCoordinate x.plainChars :=
    ((Double.isNumeral_plainChars h).mono fun _ => Text.isDecimalDigit_of_isDigit).isCoordinate
  exact isLatLon_iff.mpr
    ⟨p.lat.plainChars, p.lon.plainChars, String.toList_ofList, coordinate lat, coordinate lon⟩

end SearchCriteria
