/-!
# Dates and instants as text

Days of the proleptic Gregorian calendar and instants of universal time, written as `YYYY-MM-DD` and
`YYYY-MM-DDThh:mm:ssZ`. A year outside 0 to 9999 is written with its sign. The fraction of a second
has three, six or nine digits, as few as are exact, and none if it is zero.
-/

namespace SearchCriteria

/-- A day of the calendar. -/
structure Date where
  year : Int
  month : Nat
  day : Nat
deriving DecidableEq, Repr

/-- An instant, counted from the start of the year 1970. From a thousand million nanoseconds on it
lies in the leap second that follows. -/
structure Instant where
  seconds : Int
  nanoseconds : Nat
deriving DecidableEq, Repr

namespace Date

def isLeapYear (year : Int) : Bool :=
  year % 4 = 0 && (year % 100 != 0 || year % 400 = 0)

def daysInMonth (year : Int) (month : Nat) : Nat :=
  match month with
  | 2 => if isLeapYear year then 29 else 28
  | 4 | 6 | 9 | 11 => 30
  | _ => 31

/-- The day with this year, month and day of the month, if the calendar has it. -/
def ofParts? (year : Int) (month day : Nat) : Option Date :=
  if 1 ≤ month ∧ month ≤ 12 ∧ 1 ≤ day ∧ day ≤ daysInMonth year month then some { year, month, day }
  else none

/-- The day that is so many days after the first day of 1970. The count runs in eras of four hundred
years, whose years begin in March so that the leap day is the last of its year. -/
def ofDayNumber (n : Int) : Date :=
  let shifted := n + 719468
  let era := shifted / 146097
  let dayOfEra := (shifted % 146097).toNat
  let yearOfEra := (dayOfEra - dayOfEra / 1460 + dayOfEra / 36524 - dayOfEra / 146096) / 365
  let dayOfYear := dayOfEra - (365 * yearOfEra + yearOfEra / 4 - yearOfEra / 100)
  let monthFromMarch := (5 * dayOfYear + 2) / 153
  let month := if monthFromMarch < 10 then monthFromMarch + 3 else monthFromMarch - 9
  { year := era * 400 + yearOfEra + (if month ≤ 2 then 1 else 0)
    month
    day := dayOfYear - (153 * monthFromMarch + 2) / 5 + 1 }

/-- A natural with at least so many digits. -/
def padded (width n : Nat) : List Char :=
  let digits := Nat.toDigits 10 n
  List.replicate (width - digits.length) '0' ++ digits

def yearChars (year : Int) : List Char :=
  let sign := if year < 0 then ['-'] else if 9999 < year then ['+'] else []
  sign ++ padded 4 year.natAbs

def chars (d : Date) : List Char :=
  yearChars d.year ++ '-' :: padded 2 d.month ++ '-' :: padded 2 d.day

def text (d : Date) : String :=
  String.ofList d.chars

end Date

namespace Instant

def secondsPerDay : Int := 86400

def date (t : Instant) : Date :=
  Date.ofDayNumber (t.seconds / secondsPerDay)

def fractionChars (nanoseconds : Nat) : List Char :=
  if nanoseconds = 0 then []
  else if nanoseconds % 1000000 = 0 then '.' :: Date.padded 3 (nanoseconds / 1000000)
  else if nanoseconds % 1000 = 0 then '.' :: Date.padded 6 (nanoseconds / 1000)
  else '.' :: Date.padded 9 nanoseconds

def chars (t : Instant) : List Char :=
  let time := (t.seconds % secondsPerDay).toNat
  let leap := t.nanoseconds / 1000000000
  t.date.chars ++ 'T' :: Date.padded 2 (time / 3600) ++ ':' :: Date.padded 2 (time / 60 % 60)
    ++ ':' :: Date.padded 2 (time % 60 + leap)
    ++ fractionChars (t.nanoseconds % 1000000000) ++ ['Z']

def text (t : Instant) : String :=
  String.ofList t.chars

end Instant

end SearchCriteria
