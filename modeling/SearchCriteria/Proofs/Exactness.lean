import Mathlib.Data.Int.Log
import Mathlib.Data.Rat.Floor
import Mathlib.Tactic.FieldSimp
import Mathlib.Tactic.Positivity
import Mathlib.Tactic.Ring
import SearchCriteria.Proofs.Essence

/-!
# Arithmetic that is not rounded

A double has 53 bits for its significand, and what needs no more of them is not rounded: such a
quotient, and with it such a sum and such a half, is the number that has exactly this value. Values
are rational numbers here.
-/

namespace SearchCriteria

theorem power_two_of_nonneg {exponent : Int} (h : 0 ≤ exponent) :
    (power 2 exponent : ℚ) = 2 ^ exponent := by
  obtain ⟨n, rfl⟩ := Int.eq_ofNat_of_zero_le h
  simp [power]

theorem power_of_nonpos {base : Nat} {exponent : Int} (h : exponent ≤ 0) :
    power base exponent = 1 := by
  rw [power, Int.toNat_of_nonpos h]
  rfl

theorem power_two_pos (exponent : Int) : 0 < power 2 exponent :=
  Nat.pow_pos Nat.two_pos

/-- A power with an integer exponent is a fraction of two powers. -/
theorem power_two_div (exponent : Int) :
    (power 2 exponent : ℚ) / power 2 (-exponent) = 2 ^ exponent := by
  rcases le_total 0 exponent with h | h
  · rw [power_of_nonpos (Int.neg_nonpos_of_nonneg h), power_two_of_nonneg h, Nat.cast_one, div_one]
  · rw [power_of_nonpos h, power_two_of_nonneg (Int.neg_nonneg_of_nonpos h), Nat.cast_one,
      one_div, zpow_neg, inv_inv]

namespace Double

theorem two_pow_log2_le {n : Nat} (h : 0 < n) : (2 : ℚ) ^ (n.log2 : ℤ) ≤ n := by
  exact_mod_cast Nat.log2_self_le h.ne'

theorem lt_two_pow_log2 (n : Nat) : (n : ℚ) < 2 ^ ((n.log2 : ℤ) + 1) := by
  exact_mod_cast Nat.lt_log2_self

/-- The exponent of the leading bit of a quotient. -/
theorem binaryLog_eq_log {num den : Nat} (hnum : 0 < num) (hden : 0 < den) :
    binaryLog num den = Int.log 2 ((num : ℚ) / den) := by
  have denPos : (0 : ℚ) < den := Nat.cast_pos.mpr hden
  have quotientPos : (0 : ℚ) < num / den := div_pos (Nat.cast_pos.mpr hnum) denPos
  -- The estimate is the exponent sought or one too large.
  have above : Int.log 2 ((num : ℚ) / den) < (num.log2 : ℤ) - den.log2 + 1 := by
    rw [← Int.lt_zpow_iff_log_lt Nat.one_lt_two quotientPos, div_lt_iff₀ denPos]
    calc (num : ℚ) < 2 ^ ((num.log2 : ℤ) + 1) := lt_two_pow_log2 num
      _ = 2 ^ ((num.log2 : ℤ) - den.log2 + 1) * 2 ^ (den.log2 : ℤ) := by
        rw [← zpow_add₀ two_ne_zero]
        congr 1
        ring
      _ ≤ 2 ^ ((num.log2 : ℤ) - den.log2 + 1) * den :=
        mul_le_mul_of_nonneg_left (two_pow_log2_le hden) (zpow_nonneg zero_le_two _)
  have below : (num.log2 : ℤ) - den.log2 - 1 ≤ Int.log 2 ((num : ℚ) / den) := by
    rw [← Int.zpow_le_iff_le_log Nat.one_lt_two quotientPos, le_div_iff₀ denPos]
    calc (2 : ℚ) ^ ((num.log2 : ℤ) - den.log2 - 1) * den
        ≤ 2 ^ ((num.log2 : ℤ) - den.log2 - 1) * 2 ^ ((den.log2 : ℤ) + 1) :=
          mul_le_mul_of_nonneg_left (lt_two_pow_log2 den).le (zpow_nonneg zero_le_two _)
      _ = 2 ^ (num.log2 : ℤ) := by
        rw [← zpow_add₀ two_ne_zero]
        congr 1
        ring
      _ ≤ num := two_pow_log2_le hnum
  have reached (e : Int) :
      den * power 2 e ≤ num * power 2 (-e) ↔ e ≤ Int.log 2 ((num : ℚ) / den) := by
    have inverse : (0 : ℚ) < power 2 (-e) := Nat.cast_pos.mpr (power_two_pos _)
    rw [← Int.zpow_le_iff_le_log Nat.one_lt_two quotientPos, Nat.cast_ofNat, ← power_two_div,
      div_le_div_iff₀ inverse denPos, mul_comm (power 2 e : ℚ)]
    exact_mod_cast Iff.rfl
  rw [binaryLog]
  split
  case isTrue fits =>
    have := (reached _).mp fits
    omega
  case isFalse large =>
    have := mt (reached _).mpr large
    omega

theorem log_mul_two_zpow {n : Nat} (h : 0 < n) (exponent : Int) :
    Int.log 2 ((n : ℚ) * 2 ^ exponent) = n.log2 + exponent := by
  have scale : (0 : ℚ) < 2 ^ exponent := zpow_pos two_pos _
  have positive : (0 : ℚ) < n * 2 ^ exponent := mul_pos (Nat.cast_pos.mpr h) scale
  have least : (2 : ℚ) ^ ((n.log2 : ℤ) + exponent) ≤ n * 2 ^ exponent := by
    rw [zpow_add₀ two_ne_zero]
    exact mul_le_mul_of_nonneg_right (two_pow_log2_le h) scale.le
  have next : (n : ℚ) * 2 ^ exponent < 2 ^ ((n.log2 : ℤ) + exponent + 1) := by
    rw [add_right_comm, zpow_add₀ two_ne_zero]
    exact mul_lt_mul_of_pos_right (lt_two_pow_log2 n) scale
  have ge := (Int.zpow_le_iff_le_log Nat.one_lt_two positive).mp least
  have lt := (Int.lt_zpow_iff_log_lt Nat.one_lt_two positive).mp next
  omega

theorem log2_mul_two_pow {n : Nat} (h : 0 < n) (k : Nat) : (n * 2 ^ k).log2 = n.log2 + k := by
  induction k with
  | zero => simp
  | succ k ih =>
    have double : n * 2 ^ (k + 1) = 2 * (n * 2 ^ k) := by ring
    rw [double, Nat.log2_two_mul (by positivity), ih]
    rfl

theorem roundQuotient_mul (n : Nat) {den : Nat} (h : 0 < den) :
    roundQuotient (n * den) den = n := by
  simp [roundQuotient, h]

theorem normalize_of_normal {negative : Bool} {significand : Nat} {exponent : Int}
    (nonzero : significand ≠ 0)
    (normal : max (exponent + significand.log2 - 52) (-1074) = exponent) :
    normalize negative significand exponent = .finite negative significand exponent := by
  rw [normalize, if_neg nonzero, normal]
  simp only [sub_self, power_of_nonpos le_rfl, Nat.mul_one, Nat.div_one]

/-- A quotient on a grid of places that is fine enough for it. -/
theorem scaled_eq {num den significand : Nat} {exponent place : Int} (hden : 0 < den)
    (fine : place ≤ exponent) (same : (num : ℚ) / den = significand * 2 ^ exponent) :
    num * power 2 (-place) = significand * power 2 (exponent - place) * (den * power 2 place) := by
  have inverse : (power 2 (-place) : ℚ) ≠ 0 := Nat.cast_ne_zero.mpr (power_two_pos _).ne'
  have shift := power_two_div place
  rw [div_eq_iff inverse] at shift
  rw [div_eq_iff (Nat.cast_ne_zero.mpr hden.ne')] at same
  have up : (power 2 (exponent - place) : ℚ) = 2 ^ exponent / 2 ^ place := by
    rw [power_two_of_nonneg (by omega), zpow_sub₀ two_ne_zero]
  have cast : (num : ℚ) * power 2 (-place)
      = significand * power 2 (exponent - place) * (den * power 2 place) := by
    rw [same, up, shift]
    field_simp
  exact_mod_cast cast

/-- A quotient that needs no more bits than a double has is not rounded. -/
theorem ofQuotient_of_fits (negative : Bool) {num den significand : Nat} {exponent : Int}
    (hden : 0 < den) (positive : 0 < significand) (bits : significand < 2 ^ 53)
    (low : -1074 ≤ exponent) (high : exponent + significand.log2 < 1024)
    (same : (num : ℚ) / den = significand * 2 ^ exponent) :
    ∃ place : Int, place ≤ exponent ∧
      ofQuotient doubleFormat negative num den
        = .finite negative (significand * power 2 (exponent - place)) place := by
  have hnum : 0 < num := by
    refine Nat.pos_of_ne_zero fun none => ?_
    rw [none, Nat.cast_zero, zero_div] at same
    exact (mul_pos (Nat.cast_pos.mpr positive) (zpow_pos two_pos _)).ne same
  have few : significand.log2 < 53 := (Nat.log2_lt positive.ne').mpr bits
  have log : binaryLog num den = significand.log2 + exponent := by
    rw [binaryLog_eq_log hnum hden, same, log_mul_two_zpow positive]
  obtain ⟨place, placed⟩ : ∃ place : Int,
      max (binaryLog num den + 1 - doubleFormat.bits) doubleFormat.leastExponent = place := ⟨_, rfl⟩
  have own : max (binaryLog num den + 1 - 53) (-1074) = place := placed
  have fine : place ≤ exponent := by omega
  have size : (significand * power 2 (exponent - place)).log2
      = significand.log2 + (exponent - place).toNat := log2_mul_two_pow positive _
  have nonzero : significand * power 2 (exponent - place) ≠ 0 :=
    (Nat.mul_pos positive (power_two_pos _)).ne'
  have below : ¬ doubleFormat.overflowExponent
      ≤ place + (significand * power 2 (exponent - place)).log2 := by
    change ¬ (1024 : ℤ) ≤ _
    omega
  refine ⟨place, fine, ?_⟩
  rw [ofQuotient, if_neg hnum.ne', placed]
  dsimp only
  rw [scaled_eq hden fine same, roundQuotient_mul _ (Nat.mul_pos hden (power_two_pos place)),
    if_neg (mt And.right below), normalize_of_normal nonzero (by omega)]

/-- The number is a rational number: it is finite and has this value. -/
def IsRat (x : Double) (value : ℚ) : Prop :=
  ∃ dyadic, x.value? = some dyadic ∧ dyadic.toRat = value

theorem IsRat.isFinite {x : Double} {value : ℚ} (h : x.IsRat value) : x.isFinite = true := by
  obtain ⟨dyadic, found, -⟩ := h
  rw [isFinite_eq_isSome_value?, found]
  rfl

theorem isRat_finite_iff {negative : Bool} {significand : Nat} {exponent : Int} {value : ℚ} :
    (finite negative significand exponent).IsRat value ↔
      (signed negative significand : ℚ) * 2 ^ exponent = value := by
  simp only [IsRat, value?, Option.some.injEq, exists_eq_left',
    Dyadic.toRat_ofIntWithPrec_eq_mul_two_pow, neg_neg]

theorem IsRat.exists_finite {x : Double} {value : ℚ} (h : x.IsRat value) :
    ∃ negative significand exponent, x = .finite negative significand exponent ∧
      (signed negative significand : ℚ) * 2 ^ exponent = value := by
  cases x with
  | nan => simp [IsRat, value?] at h
  | infinite => simp [IsRat, value?] at h
  | finite negative significand exponent =>
    exact ⟨negative, significand, exponent, rfl, isRat_finite_iff.mp h⟩

/-- A value for which the bits and the exponents of a double suffice. -/
def Fits (value : ℚ) : Prop :=
  ∃ (n exponent : ℤ), n.natAbs < 2 ^ 53 ∧ -1074 ≤ exponent ∧ exponent ≤ 971 ∧
    value = n * 2 ^ exponent

/-- A fraction of a small integer and a power of two. -/
theorem fits_div {n : ℤ} {places : Nat} (bits : n.natAbs < 2 ^ 53) (few : places ≤ 1074) :
    Fits ((n : ℚ) / 2 ^ places) :=
  ⟨n, -places, bits, by omega, by omega, by rw [zpow_neg, zpow_natCast, div_eq_mul_inv]⟩

theorem signed_zero (negative : Bool) : signed negative 0 = 0 := by
  cases negative <;> rfl

theorem abs_signed (negative : Bool) (n : Nat) : |(signed negative n : ℚ)| = n := by
  cases negative <;> simp [signed]

theorem signed_natAbs (n : Int) : signed (n < 0) n.natAbs = n := by
  by_cases below : n < 0
  · simp only [below, decide_true, signed, if_true]
    omega
  · simp only [below, decide_false, signed, Bool.false_eq_true, if_false]
    omega

/-- Moving to a finer place does not change a value. -/
theorem signed_mul_power {negative : Bool} {significand : Nat} {exponent place : Int}
    (fine : place ≤ exponent) :
    (signed negative (significand * power 2 (exponent - place)) : ℚ) * 2 ^ place
      = signed negative significand * 2 ^ exponent := by
  have shift : (power 2 (exponent - place) : ℚ) * 2 ^ place = 2 ^ exponent := by
    rw [power_two_of_nonneg (by omega), ← zpow_add₀ two_ne_zero, sub_add_cancel]
  rw [← shift]
  cases negative <;> simp [signed, mul_assoc]

theorem isRat_zero (negative : Bool) : (zero negative).IsRat 0 := by
  rw [zero, isRat_finite_iff, signed_zero, Int.cast_zero, zero_mul]

/-- What fits is not rounded. -/
theorem isRat_ofBinary {negative : Bool} {significand : Nat} {exponent : Int} {value : ℚ}
    (same : (signed negative significand : ℚ) * 2 ^ exponent = value) (fits : Fits value) :
    (ofBinary negative significand exponent).IsRat value := by
  rcases Nat.eq_zero_or_pos significand with rfl | positive
  · rw [signed_zero, Int.cast_zero, zero_mul] at same
    rw [← same, ofBinary, Nat.zero_mul, ofQuotient, if_pos rfl]
    exact isRat_zero negative
  obtain ⟨n, place, bits, low, high, rfl⟩ := fits
  have magnitude : (significand : ℚ) * 2 ^ exponent = n.natAbs * 2 ^ place := by
    have sizes := congrArg abs same
    rw [abs_mul, abs_mul, abs_of_pos (zpow_pos (two_pos : (0 : ℚ) < 2) exponent),
      abs_of_pos (zpow_pos (two_pos : (0 : ℚ) < 2) place), abs_signed] at sizes
    rw [Nat.cast_natAbs, Int.cast_abs, sizes]
  have nonzero : 0 < n.natAbs := by
    refine Nat.pos_of_ne_zero fun none => ?_
    rw [none, Nat.cast_zero, zero_mul] at magnitude
    exact (mul_pos (Nat.cast_pos.mpr positive) (zpow_pos two_pos exponent)).ne' magnitude
  have few : n.natAbs.log2 < 53 := (Nat.log2_lt nonzero.ne').mpr bits
  have quotient : ((significand * power 2 exponent : Nat) : ℚ) / (power 2 (-exponent) : Nat)
      = n.natAbs * 2 ^ place := by
    rw [Nat.cast_mul, mul_div_assoc, power_two_div, magnitude]
  obtain ⟨own, fine, found⟩ := ofQuotient_of_fits negative (power_two_pos (-exponent)) nonzero bits
    low (by omega) quotient
  rw [ofBinary, found, isRat_finite_iff, signed_mul_power fine, ← same]
  cases negative with
  | false => exact magnitude.symm
  | true => simpa [signed] using magnitude.symm

theorem isRat_ofInt {n : ℤ} (bits : n.natAbs < 2 ^ 53) : (ofInt n).IsRat n := by
  have binary : ofInt n = ofBinary (n < 0) n.natAbs 0 := by
    rw [ofBinary, Int.neg_zero, power_of_nonpos le_rfl, Nat.mul_one]
    rfl
  rw [binary]
  refine isRat_ofBinary (by rw [signed_natAbs, zpow_zero, mul_one]) ?_
  simpa using fits_div bits (Nat.zero_le 1074)

/-- A sum that fits is not rounded. -/
theorem IsRat.add {x y : Double} {value value' : ℚ} (hx : x.IsRat value) (hy : y.IsRat value')
    (fits : Fits (value + value')) : (x + y).IsRat (value + value') := by
  obtain ⟨negative, significand, exponent, rfl, rfl⟩ := hx.exists_finite
  obtain ⟨negative', significand', exponent', rfl, rfl⟩ := hy.exists_finite
  obtain ⟨place, placed⟩ : ∃ place : Int, min exponent exponent' = place := ⟨_, rfl⟩
  obtain ⟨total, totalled⟩ : ∃ total : Int,
      signed negative (significand * power 2 (exponent - place))
        + signed negative' (significand' * power 2 (exponent' - place)) = total := ⟨_, rfl⟩
  have sum : (total : ℚ) * 2 ^ place
      = signed negative significand * 2 ^ exponent
        + signed negative' significand' * 2 ^ exponent' := by
    rw [← totalled, Int.cast_add, add_mul, signed_mul_power (by omega),
      signed_mul_power (by omega)]
  change (Double.add _ _).IsRat _
  rw [Double.add, placed, totalled]
  split
  case isTrue none =>
    rw [← sum, none, Int.cast_zero, zero_mul]
    exact isRat_zero _
  case isFalse =>
    exact isRat_ofBinary (by rw [signed_natAbs, sum]) fits

theorem IsRat.half {x : Double} {value : ℚ} (hx : x.IsRat value) (fits : Fits (value / 2)) :
    x.half.IsRat (value / 2) := by
  obtain ⟨negative, significand, exponent, rfl, rfl⟩ := hx.exists_finite
  refine isRat_ofBinary ?_ fits
  rw [zpow_sub_one₀ two_ne_zero, mul_div_assoc, div_eq_mul_inv]

theorem IsRat.midpoint {x y : Double} {value value' : ℚ} (hx : x.IsRat value) (hy : y.IsRat value')
    (fits : Fits (value + value')) (fits' : Fits ((value + value') / 2)) :
    (x.midpoint y).IsRat ((value + value') / 2) :=
  (hx.add hy fits).half fits'

end Double

end SearchCriteria
