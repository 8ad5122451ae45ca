import SearchCriteria.Number.Double

/-!
# Reading numbers

A numeral has an optional sign, digits with an optional decimal point among them or at either end,
and an optional exponent. The names of infinity and of the number that is none may stand in its
place, in any letter case.
-/

namespace SearchCriteria

/-- A numeral taken apart: its value is `± digits · 10 ^ exponent`. -/
structure Numeral where
  negative : Bool
  digits : Nat
  exponent : Int
deriving DecidableEq, Repr

namespace Numeral

def digitValue (c : Char) : Nat :=
  c.toNat - '0'.toNat

/-- The natural that a list of ASCII digits writes. -/
def valueOfDigits (digits : List Char) : Nat :=
  digits.foldl (fun n c => 10 * n + digitValue c) 0

/-- A sign and what stands behind it. -/
def splitSign : List Char → Bool × List Char
  | '-' :: rest => (true, rest)
  | '+' :: rest => (false, rest)
  | rest => (false, rest)

/-- The exponent at the end of a numeral: nothing, or a mark, an optional sign and digits. -/
def readExponent? : List Char → Option Int
  | [] => some 0
  | mark :: rest =>
    let (negative, digits) := splitSign rest
    if (mark = 'e' ∨ mark = 'E') ∧ digits ≠ [] ∧ digits.all Char.isDigit then
      some (if negative then -(valueOfDigits digits : Int) else valueOfDigits digits)
    else none

/-- Takes an unsigned numeral apart. -/
def readUnsigned? (negative : Bool) (text : List Char) : Option Numeral :=
  let whole := text.takeWhile Char.isDigit
  let rest := text.dropWhile Char.isDigit
  let (fraction, rest) := match rest with
    | '.' :: after => (after.takeWhile Char.isDigit, after.dropWhile Char.isDigit)
    | _ => ([], rest)
  if whole = [] ∧ fraction = [] then none
  else (readExponent? rest).map fun exponent =>
    { negative, digits := valueOfDigits (whole ++ fraction)
      exponent := exponent - fraction.length }

end Numeral

namespace Double

/-- The number of a format that is nearest to a numeral. -/
def ofNumeral (format : Format) (n : Numeral) : Double :=
  ofDecimal format n.negative n.digits n.exponent

/-- Reads a number of a format. -/
def read? (format : Format) (text : String) : Option Double :=
  let (negative, rest) := Numeral.splitSign text.toList
  match rest.map Char.toLower with
  | ['n', 'a', 'n'] => some .nan
  | ['i', 'n', 'f'] => some (.infinite negative)
  | ['i', 'n', 'f', 'i', 'n', 'i', 't', 'y'] => some (.infinite negative)
  | _ => (Numeral.readUnsigned? negative rest).map (ofNumeral format)

end Double

end SearchCriteria
