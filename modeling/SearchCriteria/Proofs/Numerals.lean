import Mathlib.Data.List.DropRight
import SearchCriteria.Number.Reading
import SearchCriteria.Proofs.Coordinates

/-!
# Numerals that can be read

Whether a text has the form of a latitude and a longitude is decided by the decimal digits of all
scripts, but numbers are read from ASCII digits alone. So a numeral of that form is a number exactly
if none of its digits is of another script.
-/

namespace SearchCriteria

open Text

namespace Text

variable {c : Char} {text : List Char}

/-! ## Digits of other scripts -/

/-- A decimal digit of another script than ASCII. -/
def isForeignDigit (c : Char) : Bool :=
  isDecimalDigit c && !c.isDigit

/-- A text without such digits. -/
def IsNative (text : List Char) : Prop :=
  ∀ c ∈ text, isForeignDigit c = false

theorem isNative_append {more : List Char} :
    IsNative (text ++ more) ↔ IsNative text ∧ IsNative more :=
  List.forall_mem_append

theorem isNative_cons : IsNative (c :: text) ↔ isForeignDigit c = false ∧ IsNative text :=
  List.forall_mem_cons

theorem isDigit_of_not_foreign (digit : isDecimalDigit c = true)
    (native : isForeignDigit c = false) : c.isDigit = true := by
  simpa [isForeignDigit, digit] using native

theorem isForeignDigit_of_isDigit (h : c.isDigit = true) : isForeignDigit c = false := by
  simp [isForeignDigit, h]

theorem isForeignDigit_of_isBlank (h : isBlank c = true) : isForeignDigit c = false := by
  refine Bool.eq_false_iff.mpr fun foreign => ?_
  have digit : isDecimalDigit c = true := (Bool.and_eq_true_iff.mp foreign).1
  rw [isBlank_of_isDecimalDigit digit] at h
  contradiction

theorem ne_of_isDecimalDigit {letter : Char} (digit : isDecimalDigit c = true)
    (other : isDecimalDigit letter = false) : c ≠ letter := by
  rintro rfl
  rw [digit] at other
  contradiction

/-- No letter is a decimal digit, so the letter case of a digit cannot be changed. -/
theorem toLower_of_isDecimalDigit (h : isDecimalDigit c = true) : c.toLower = c := by
  have known : ∀ first ∈ digitZeros, first = 0x30 ∨ 0x660 ≤ first := by decide
  simp only [isDecimalDigit, List.any_eq_true, Bool.and_eq_true, decide_eq_true_eq] at h
  obtain ⟨first, mem, low, high⟩ := h
  have range := known first mem
  apply dif_neg
  rintro ⟨least, most⟩
  have least' : 65 ≤ c.toNat := least
  have most' : c.toNat ≤ 90 := most
  omega

/-! ## White space around a text -/

/-- A text without the white space around it. -/
def trimmed (text : List Char) : List Char :=
  (text.dropWhile isBlank).rdropWhile isBlank

theorem exists_trimmed (text : List Char) :
    ∃ before after, text = before ++ (trimmed text ++ after) ∧
      (∀ c ∈ before, isBlank c = true) ∧ ∀ c ∈ after, isBlank c = true := by
  refine ⟨text.takeWhile isBlank, (text.dropWhile isBlank).rtakeWhile isBlank, ?_, ?_, ?_⟩
  · rw [trimmed, List.rdropWhile_append_rtakeWhile, List.takeWhile_append_dropWhile]
  · intro c
    exact List.mem_takeWhile_imp
  · intro c
    exact List.mem_rtakeWhile_imp

theorem dropWhile_of_solid (solid : ∀ c ∈ text, isBlank c = false) :
    text.dropWhile isBlank = text := by
  apply PointText.dropWhile_eq_self
  rintro c others rfl
  exact solid c List.mem_cons_self

/-- Nothing is lost of a text that has no white space in it. -/
theorem trimmed_of_solid {before after : List Char} (blank : ∀ c ∈ before, isBlank c = true)
    (some : text ≠ []) (solid : ∀ c ∈ text, isBlank c = false)
    (blank' : ∀ c ∈ after, isBlank c = true) : trimmed (before ++ (text ++ after)) = text := by
  obtain ⟨first, others, rfl⟩ := List.exists_cons_of_ne_nil some
  have front : (before ++ (first :: others ++ after)).dropWhile isBlank =
      first :: others ++ after := by
    rw [List.dropWhile_append_of_pos blank, List.cons_append]
    exact List.dropWhile_cons_of_neg (Bool.eq_false_iff.mp (solid first List.mem_cons_self))
  have back : (first :: others ++ after).reverse.dropWhile isBlank = (first :: others).reverse := by
    rw [List.reverse_append, List.dropWhile_append_of_pos]
    · apply dropWhile_of_solid
      intro c mem
      exact solid c (List.mem_reverse.mp mem)
    · intro c mem
      exact blank' c (List.mem_reverse.mp mem)
  rw [trimmed, front, List.rdropWhile, back, List.reverse_reverse]

/-- White space has nothing to do with digits. -/
theorem isNative_trimmed_iff : IsNative (trimmed text) ↔ IsNative text := by
  obtain ⟨before, after, split, blank, blank'⟩ := exists_trimmed text
  have around {spaces : List Char} (h : ∀ c ∈ spaces, isBlank c = true) : IsNative spaces :=
    fun c mem => isForeignDigit_of_isBlank (h c mem)
  calc IsNative (trimmed text)
      ↔ IsNative (before ++ (trimmed text ++ after)) := by
        rw [isNative_append, isNative_append]
        simp only [around blank, around blank', true_and, and_true]
    _ ↔ IsNative text := by rw [← split]

end Text

namespace PointText

variable {digit : Char → Bool} {text : List Char} {c : Char}

/-! ## Numerals in ASCII digits -/

theorem IsNumeral.mem_cases (h : IsNumeral digit text) (mem : c ∈ text) :
    c = '-' ∨ c = '.' ∨ digit c = true := by
  obtain ⟨sign, whole, fraction, rfl, signed, digits, places⟩ := h
  rcases List.mem_append.mp mem with mem | mem
  · rcases signed with rfl | rfl
    · contradiction
    · exact .inl (List.mem_singleton.mp mem)
  rcases List.mem_append.mp mem with mem | mem
  · exact .inr (.inr (digits.2 c mem))
  · rcases places with rfl | ⟨places, rfl, behind⟩
    · contradiction
    · rcases List.mem_cons.mp mem with point | mem
      · exact .inr (.inl point)
      · exact .inr (.inr (behind.2 c mem))

theorem IsNumeral.ne_nil (h : IsNumeral digit text) : text ≠ [] := by
  obtain ⟨sign, whole, fraction, rfl, -, digits, -⟩ := h
  exact List.append_ne_nil_of_right_ne_nil _ (List.append_ne_nil_of_left_ne_nil digits.1 _)

theorem IsSign.isNative (h : IsSign text) : IsNative text := by
  rcases h with rfl | rfl
  · exact nofun
  · exact isNative_cons.mpr ⟨by decide, nofun⟩

theorem IsDigits.native (h : IsDigits isDecimalDigit text) (native : IsNative text) :
    IsDigits Char.isDigit text :=
  ⟨h.1, fun c mem => isDigit_of_not_foreign (h.2 c mem) (native c mem)⟩

theorem IsFraction.native (h : IsFraction isDecimalDigit text) (native : IsNative text) :
    IsFraction Char.isDigit text := by
  rcases h with none | ⟨places, rfl, behind⟩
  · exact .inl none
  · exact .inr ⟨places, rfl, behind.native (isNative_cons.mp native).2⟩

theorem IsNumeral.isNative (h : IsNumeral Char.isDigit text) : IsNative text := by
  intro c mem
  rcases h.mem_cases mem with rfl | rfl | digit
  · decide
  · decide
  · exact isForeignDigit_of_isDigit digit

/-- A numeral is written in ASCII digits exactly if it has no others. -/
theorem IsNumeral.native_iff (h : IsNumeral isDecimalDigit text) :
    IsNumeral Char.isDigit text ↔ IsNative text := by
  constructor
  · intro native
    exact native.isNative
  · intro native
    obtain ⟨sign, whole, fraction, rfl, signed, digits, places⟩ := h
    obtain ⟨-, behind⟩ := isNative_append.mp native
    obtain ⟨first, second⟩ := isNative_append.mp behind
    exact ⟨sign, whole, fraction, rfl, signed, digits.native first, places.native second⟩

/-! ## Reading numerals -/

theorem readUnsigned?_of_digits {whole fraction : List Char} (negative : Bool)
    (digits : IsDigits Char.isDigit whole) (places : IsFraction Char.isDigit fraction) :
    (Numeral.readUnsigned? negative (whole ++ fraction)).isSome = true := by
  rcases places with rfl | ⟨places, rfl, behind⟩
  · have taken : whole.takeWhile Char.isDigit = whole := List.takeWhile_eq_self_iff.mpr digits.2
    have dropped : whole.dropWhile Char.isDigit = [] := List.dropWhile_eq_nil_iff.mpr digits.2
    simp [Numeral.readUnsigned?, taken, dropped, digits.1, Numeral.readExponent?]
  · have taken : (whole ++ '.' :: places).takeWhile Char.isDigit = whole := by
      rw [List.takeWhile_append_of_pos digits.2, List.takeWhile_cons_of_neg (by decide),
        List.append_nil]
    have dropped : (whole ++ '.' :: places).dropWhile Char.isDigit = '.' :: places := by
      rw [List.dropWhile_append_of_pos digits.2, List.dropWhile_cons_of_neg (by decide)]
    have ended : places.dropWhile Char.isDigit = [] := List.dropWhile_eq_nil_iff.mpr behind.2
    simp [Numeral.readUnsigned?, taken, dropped, ended, digits.1, Numeral.readExponent?]

/-- Without its mark there is no exponent. -/
theorem eq_nil_of_readExponent? (h : (Numeral.readExponent? text).isSome = true)
    (plain : ∀ mark ∈ text, ¬ (mark = 'e' ∨ mark = 'E')) : text = [] := by
  cases text with
  | nil => rfl
  | cons mark rest => simp [Numeral.readExponent?, plain mark List.mem_cons_self] at h

/-- If there is no exponent, nothing is read but ASCII digits and a point. -/
theorem isNative_of_readUnsigned? {negative : Bool}
    (h : (Numeral.readUnsigned? negative text).isSome = true)
    (plain : ∀ mark ∈ text, ¬ (mark = 'e' ∨ mark = 'E')) : IsNative text := by
  have digits {part : List Char} (all : ∀ c ∈ part, c.isDigit = true) : IsNative part :=
    fun c mem => isForeignDigit_of_isDigit (all c mem)
  have inside : text.dropWhile Char.isDigit ⊆ text := List.dropWhile_subset _
  rw [← List.takeWhile_append_dropWhile (p := Char.isDigit) (l := text), isNative_append]
  refine ⟨digits fun c => List.mem_takeWhile_imp, ?_⟩
  -- What stands behind the digits begins with a point, or it is nothing but an exponent.
  unfold Numeral.readUnsigned? at h
  dsimp only at h
  split at h
  case h_1 after found =>
    rw [found] at inside ⊢
    dsimp only at h
    split at h
    case isTrue => contradiction
    case isFalse =>
      rw [Option.isSome_map] at h
      have ended : after.dropWhile Char.isDigit = [] := by
        apply eq_nil_of_readExponent? h
        intro mark there
        exact plain mark (inside (List.mem_cons_of_mem _ (List.dropWhile_subset _ there)))
      exact isNative_cons.mpr ⟨by decide, digits (List.dropWhile_eq_nil_iff.mp ended)⟩
  case h_2 =>
    dsimp only at h
    split at h
    case isTrue => contradiction
    case isFalse =>
      rw [Option.isSome_map] at h
      rw [eq_nil_of_readExponent? h fun mark there => plain mark (inside there)]
      exact nofun

/-- What begins with a digit has no sign. -/
theorem splitSign_of_digit (digit : isDecimalDigit c = true) (rest : List Char) :
    Numeral.splitSign (c :: rest) = (false, c :: rest) := by
  rw [Numeral.splitSign.eq_def]
  split
  case h_1 same => exact absurd (List.cons.inj same).1 (ne_of_isDecimalDigit digit (by decide))
  case h_2 same => exact absurd (List.cons.inj same).1 (ne_of_isDecimalDigit digit (by decide))
  case h_3 => rfl

/-- What begins with a sign and a digit is not the name of a number. -/
theorem read?_of_digits {sign whole : List Char} (signed : IsSign sign)
    (digits : IsDigits isDecimalDigit whole) (format : Double.Format) (rest : List Char) :
    ∃ negative, Double.read? format (String.ofList (sign ++ (whole ++ rest))) =
      (Numeral.readUnsigned? negative (whole ++ rest)).map (Double.ofNumeral format) := by
  obtain ⟨first, others, rfl, digit⟩ := digits.exists_cons
  have unnamed {letter : Char} {name : List Char} (h : isDecimalDigit letter = false) :
      (first :: (others ++ rest)).map Char.toLower ≠ letter :: name := by
    rw [List.map_cons, toLower_of_isDecimalDigit digit]
    intro same
    exact ne_of_isDecimalDigit digit h (List.cons.inj same).1
  have split : ∃ negative, Numeral.splitSign (sign ++ (first :: others ++ rest)) =
      (negative, first :: (others ++ rest)) := by
    rcases signed with rfl | rfl
    · exact ⟨false, splitSign_of_digit digit _⟩
    · exact ⟨true, rfl⟩
  obtain ⟨negative, split⟩ := split
  refine ⟨negative, ?_⟩
  rw [Double.read?, String.toList_ofList, split]
  dsimp only
  split
  case h_1 same => exact absurd same (unnamed (by decide))
  case h_2 same => exact absurd same (unnamed (by decide))
  case h_3 same => exact absurd same (unnamed (by decide))
  case h_4 => rfl

/-- A number is read from a numeral exactly if all of its digits are ASCII digits. -/
theorem IsNumeral.read?_isSome_iff (h : IsNumeral isDecimalDigit text) (format : Double.Format) :
    (Double.read? format (String.ofList text)).isSome = true ↔ IsNative text := by
  obtain ⟨sign, whole, fraction, rfl, signed, digits, places⟩ := id h
  obtain ⟨negative, same⟩ := read?_of_digits signed digits format fraction
  rw [same, Option.isSome_map, isNative_append]
  constructor
  · intro read
    refine ⟨signed.isNative, isNative_of_readUnsigned? read ?_⟩
    intro mark there known
    rcases h.mem_cases (List.mem_append_right sign there) with rfl | rfl | digit
    · exact absurd known (by decide)
    · exact absurd known (by decide)
    · rcases known with known | known
      · exact ne_of_isDecimalDigit digit (by decide) known
      · exact ne_of_isDecimalDigit digit (by decide) known
  · rintro ⟨-, native⟩
    obtain ⟨first, second⟩ := isNative_append.mp native
    exact readUnsigned?_of_digits negative (digits.native first) (places.native second)

end PointText

end SearchCriteria
