import SearchCriteria.Number.Double

/-!
# The fewest digits that read back

The reals that round to a double form an interval around it, which holds its ends exactly when the
significand is even. Among the decimals in that interval those with the fewest digits are sought,
and of these the one nearest to the double: for one digit, two digits and so on, the two neighbours
of the value on the grid of that many digits are tried. All comparisons are exact, between products
of naturals. Seventeen digits are always enough.
-/

namespace SearchCriteria

/-- A positive decimal: the digits stand behind a decimal point that is then moved `point` places to
the right, so the value is `0.d₁d₂… · 10 ^ point`. The last digit is not zero. -/
structure Decimal where
  digits : List Char
  point : Int
deriving DecidableEq, Repr

namespace Decimal

/-- What becomes of a double that lies half way between two shortest decimals. -/
inductive Tie where
  | toEven
  | up

/-- The number of decimal digits of a natural. -/
def length (n : Nat) : Nat :=
  (Nat.toDigits 10 n).length

/-- The decimal `n · 10 ^ grid`. -/
def ofScaled (n : Nat) (grid : Int) : Decimal :=
  let written := Nat.toDigits 10 n
  { digits := (written.reverse.dropWhile (· == '0')).reverse, point := written.length + grid }

/-- Compares `n · 10 ^ grid` with `m · 2 ^ exponent`. -/
def compareScaled (n : Nat) (grid : Int) (m : Nat) (exponent : Int) : Ordering :=
  compare (n * power 10 grid * power 2 (-exponent)) (m * power 2 exponent * power 10 (-grid))

/-- Whether `n · 10 ^ grid` rounds to the double `significand · 2 ^ exponent`. The ends of the
interval are counted in quarters of the last place, because below a power of two the neighbour is
only half a place away. -/
def readsBack (significand : Nat) (exponent : Int) (n : Nat) (grid : Int) : Bool :=
  let low := if significand = power 2 52 ∧ -1074 < exponent then 4 * significand - 1
    else 4 * significand - 2
  let high := 4 * significand + 2
  let closed := significand % 2 == 0
  let belowValue := compareScaled n grid low (exponent - 2)
  let aboveValue := compareScaled n grid high (exponent - 2)
  (belowValue == .gt || closed && belowValue == .eq) &&
    (aboveValue == .lt || closed && aboveValue == .eq)

/-- The neighbour of the value on the grid of multiples of `10 ^ grid` that reads back, of two such
neighbours the nearer one. -/
def neighbour? (tie : Tie) (significand : Nat) (exponent grid : Int) : Option Nat :=
  let low :=
    significand * power 2 exponent * power 10 (-grid) / (power 10 grid * power 2 (-exponent))
  let high := low + 1
  match readsBack significand exponent low grid,
      readsBack significand exponent high grid with
  | false, false => none
  | true, false => some low
  | false, true => some high
  | true, true =>
    match compareScaled (low + high) grid (2 * significand) exponent, tie with
    | .gt, _ => some low
    | .lt, _ => some high
    | .eq, .up => some high
    | .eq, .toEven => some (if low % 2 = 0 then low else high)

/-- The shortest decimal that rounds to the positive double `significand · 2 ^ exponent`. Doubles
reach down to `5 · 10 ^ -324`, so scaling by `10 ^ 400` brings the leading digit of any of them into
the integers. -/
def shortest (tie : Tie) (significand : Nat) (exponent : Int) : Decimal :=
  let scaled := significand * power 2 exponent * power 10 400 / power 2 (-exponent)
  let top : Int := length scaled - 400
  let found := (List.range 17).findSome? fun n =>
    let grid := top - (n + 1 : Nat)
    (neighbour? tie significand exponent grid).map (ofScaled · grid)
  found.getD (ofScaled (significand * power 2 exponent * power 5 (-exponent)) (min exponent 0))

/-- The powers of two have a narrow interval below; this one lies half way between two decimals of
seventeen digits. -/
example : (shortest .up (power 2 52) (-77)).digits = "29802322387695313".toList ∧
    (shortest .toEven (power 2 52) (-77)).digits = "29802322387695312".toList := by decide +kernel

end Decimal

end SearchCriteria
