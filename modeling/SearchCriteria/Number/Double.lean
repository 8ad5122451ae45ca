/-!
# Double-precision numbers

A finite number is a sign, a significand and a power of two, so that what is computed with it can be
computed in the integers and rounded once. Rounding goes to the nearest number of a format and on a
tie to the even significand; what lies beyond the format is infinite, and what lies below its last
place is a zero that keeps its sign.

A single-precision number is kept as the double of the same value.
-/

namespace SearchCriteria

/-- A double-precision number. The functions of this library build finite ones in normal form: the
significand has 53 bits, or fewer and the exponent is -1074. -/
inductive Double where
  | nan
  | infinite (negative : Bool)
  /-- The value is `± significand · 2 ^ exponent`. -/
  | finite (negative : Bool) (significand : Nat) (exponent : Int)
deriving DecidableEq, Repr

/-- The power of a natural, or one if the exponent is negative. So `power b e / power b (-e)` is the
power with the integer exponent `e`, as a fraction. -/
def power (base : Nat) (exponent : Int) : Nat :=
  Nat.pow base exponent.toNat

namespace Double

/-- A binary format: how many bits a significand has, the exponent of the last place of the least
positive number, and the exponent of the least power of two that is too large. -/
structure Format where
  bits : Nat
  leastExponent : Int
  overflowExponent : Int

def doubleFormat : Format := ⟨53, -1074, 1024⟩

def singleFormat : Format := ⟨24, -149, 128⟩

def zero (negative : Bool) : Double := .finite negative 0 (-1074)

/-- The integer nearest to a quotient, on a tie the even one. -/
def roundQuotient (num den : Nat) : Nat :=
  let quotient := num / den
  let rest := num % den
  if 2 * rest < den then quotient
  else if den < 2 * rest then quotient + 1
  else quotient + quotient % 2

/-- The exponent of the greatest power of two that is at most a positive quotient. -/
def binaryLog (num den : Nat) : Int :=
  let estimate : Int := num.log2 - den.log2
  if den * power 2 estimate ≤ num * power 2 (-estimate) then estimate else estimate - 1

/-- The normal form of `± significand · 2 ^ exponent`, for a significand of at most 53 bits, or the
one of 54 bits that rounding up may give. -/
def normalize (negative : Bool) (significand : Nat) (exponent : Int) : Double :=
  if significand = 0 then zero negative
  else
    let target := max (exponent + significand.log2 - 52) (-1074)
    .finite negative
      (significand * power 2 (exponent - target) / power 2 (target - exponent)) target

/-- The number of a format that is nearest to `± num / den`. -/
def ofQuotient (format : Format) (negative : Bool) (num den : Nat) : Double :=
  if num = 0 then zero negative
  else
    let place := max (binaryLog num den + 1 - format.bits) format.leastExponent
    let significand := roundQuotient (num * power 2 (-place)) (den * power 2 place)
    if significand ≠ 0 ∧ format.overflowExponent ≤ place + significand.log2 then .infinite negative
    else normalize negative significand place

/-- The double nearest to `± significand · 2 ^ exponent`. -/
def ofBinary (negative : Bool) (significand : Nat) (exponent : Int) : Double :=
  ofQuotient doubleFormat negative (significand * power 2 exponent) (power 2 (-exponent))

/-- The number of a format that is nearest to `± digits · 10 ^ exponent`. The powers of ten are
bounded first: from `10 ^ 400` on every format overflows, and nothing below `10 ^ -400` differs
from zero. -/
def ofDecimal (format : Format) (negative : Bool) (digits : Nat) (exponent : Int) : Double :=
  if digits = 0 then zero negative
  else if 400 < exponent then .infinite negative
  else if exponent + (digits.log2 + 1) < -400 then zero negative
  else ofQuotient format negative (digits * power 10 exponent) (power 10 (-exponent))

/-- The double nearest to an integer. -/
def ofInt (n : Int) : Double :=
  ofQuotient doubleFormat (n < 0) n.natAbs 1

def isNaN : Double → Bool
  | .nan => true
  | _ => false

def isFinite : Double → Bool
  | .finite .. => true
  | _ => false

/-- A magnitude with its sign. -/
def signed (negative : Bool) (magnitude : Nat) : Int :=
  if negative then -(magnitude : Int) else magnitude

/-- The sum, rounded once. A zero sum is negative only if both terms are negative zeros. -/
def add : Double → Double → Double
  | .finite negative significand exponent, .finite negative' significand' exponent' =>
    let place := min exponent exponent'
    let total := signed negative (significand * power 2 (exponent - place))
      + signed negative' (significand' * power 2 (exponent' - place))
    if total = 0 then zero (negative && negative') else ofBinary (total < 0) total.natAbs place
  | .infinite negative, .infinite negative' =>
    if negative = negative' then .infinite negative else .nan
  | .nan, _ => .nan
  | _, .nan => .nan
  | .infinite negative, _ => .infinite negative
  | _, .infinite negative => .infinite negative

instance : Add Double := ⟨add⟩

/-- Half of a number, rounded once. -/
def half : Double → Double
  | .finite negative significand exponent => ofBinary negative significand (exponent - 1)
  | x => x

/-- The number half way between two numbers: the rounded half of their rounded sum. -/
def midpoint (x y : Double) : Double :=
  (x + y).half

/-- A tie goes to the even neighbour: the integer after 2 ^ 53 has no double of its own. -/
example : ofInt 9007199254740993 = ofInt 9007199254740992 := by decide +kernel

/-- The least positive double, half of which rounds to zero. -/
example : (Double.finite true 1 (-1074)).half = zero true := by decide +kernel

end Double

end SearchCriteria
