import SearchCriteria.Number.Shortest

/-!
# Numbers as text

Two ways to write a double, both with the fewest digits that read back. Plain text, which stands in
search texts and distances, never has an exponent, and an integral value has no decimal point. A
JSON number always has a point or an exponent, so that it is told from an integer.
-/

namespace SearchCriteria

namespace Decimal

def zeros (n : Int) : List Char :=
  List.replicate n.toNat '0'

/-- Positional text without a decimal point after an integral value. -/
def plain (d : Decimal) : List Char :=
  if d.point ≤ 0 then '0' :: '.' :: (zeros (-d.point) ++ d.digits)
  else if d.digits.length ≤ d.point then d.digits ++ zeros (d.point - d.digits.length)
  else d.digits.take d.point.toNat ++ '.' :: d.digits.drop d.point.toNat

def intText (n : Int) : List Char :=
  if n < 0 then '-' :: Nat.toDigits 10 n.natAbs else Nat.toDigits 10 n.natAbs

/-- Positional text while the point is at most sixteen places to the right of the first digit or at
most four zeros before it, otherwise one digit before the point and an exponent. -/
def exponential (d : Decimal) : List Char :=
  if d.digits.length ≤ d.point ∧ d.point ≤ 16 then
    d.digits ++ zeros (d.point - d.digits.length) ++ ['.', '0']
  else if -5 < d.point ∧ d.point ≤ 16 then d.plain
  else
    let fraction := d.digits.drop 1
    d.digits.take 1 ++ (if fraction = [] then [] else '.' :: fraction)
      ++ 'e' :: intText (d.point - 1)

end Decimal

namespace Double

def sign (negative : Bool) : List Char :=
  if negative then ['-'] else []

/-- Plain text of a number. A double half way between two shortest decimals takes the upper one,
and a negative zero keeps its sign. -/
def plainChars : Double → List Char
  | .nan => ['N', 'a', 'N']
  | .infinite negative => sign negative ++ ['i', 'n', 'f']
  | .finite negative significand exponent =>
    sign negative ++
      if significand = 0 then ['0'] else (Decimal.shortest .up significand exponent).plain

def plainText (x : Double) : String :=
  String.ofList x.plainChars

/-- The JSON text of a finite number. A double half way between two shortest decimals takes the
even one. Numbers without a JSON form are written as null. -/
def jsonChars : Double → List Char
  | .finite negative significand exponent =>
    sign negative ++
      if significand = 0 then ['0', '.', '0']
      else (Decimal.shortest .toEven significand exponent).exponential
  | _ => ['n', 'u', 'l', 'l']

end Double

end SearchCriteria
