import SearchCriteria.Text.Blank
import SearchCriteria.Text.DecimalDigit

/-!
# Points as text

A latitude and a longitude with a comma between them. Each is an optional minus sign, digits, and
optionally a point with digits behind it; white space may stand around either. Digits of all scripts
count.
-/

namespace SearchCriteria.PointText

open Text

def skipBlanks (text : List Char) : List Char :=
  text.dropWhile isBlank

/-- What stands behind a run of digits, which has at least one. -/
def skipDigits? : List Char → Option (List Char)
  | [] => none
  | c :: rest => if isDecimalDigit c then some (rest.dropWhile isDecimalDigit) else none

def skipSign : List Char → List Char
  | '-' :: rest => rest
  | text => text

def skipFraction? : List Char → Option (List Char)
  | '.' :: rest => skipDigits? rest
  | text => some text

/-- What stands behind a coordinate and the white space around it. -/
def skipCoordinate? (text : List Char) : Option (List Char) := do
  let afterWhole ← skipDigits? (skipSign (skipBlanks text))
  return skipBlanks (← skipFraction? afterWhole)

/-- Whether a text is a latitude and a longitude. -/
def isLatLon (text : String) : Bool :=
  match skipCoordinate? text.toList with
  | some (',' :: rest) => skipCoordinate? rest == some []
  | _ => false

end SearchCriteria.PointText
