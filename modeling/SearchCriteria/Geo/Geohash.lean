import SearchCriteria.Geo.Point

/-!
# Geohashes

A geohash names a cell of the earth. Its letters stand for five bits each, and the bits halve the
cell in turn, first by longitude and then by latitude; a one keeps the upper half. The point of a
geohash is the centre of its cell.
-/

namespace SearchCriteria.Geohash

/-- The letters, in the order of the bits they stand for. -/
def alphabet : List Char :=
  "0123456789bcdefghjkmnpqrstuvwxyz".toList

/-- Closed ranges of characters: the digits, and the small letters but for a, i, l and o. -/
def letterRanges : List (Char × Char) :=
  [('0', '9'), ('b', 'h'), ('j', 'j'), ('k', 'k'), ('m', 'm'), ('n', 'n'), ('p', 'z')]

/-- Whether a character lies in one of the ranges. -/
def isLetter (c : Char) : Bool :=
  letterRanges.any fun range => range.1 ≤ c && c ≤ range.2

/-- Whether a text has the form of a geohash, which has one to twelve letters. -/
def isGeohash (text : String) : Bool :=
  let letters := text.toList
  1 ≤ letters.length && letters.length ≤ 12 && letters.all isLetter

/-- The five bits of a letter, the highest first. -/
def letterBits? (c : Char) : Option (List Bool) :=
  (alphabet.idxOf? c).map fun index => [16, 8, 4, 2, 1].map fun place => index / place % 2 == 1

def bits? (letters : List Char) : Option (List Bool) :=
  (letters.mapM letterBits?).map List.flatten

/-- An interval of degrees. -/
structure Interval where
  low : Double
  high : Double

namespace Interval

def middle (i : Interval) : Double :=
  i.low.midpoint i.high

def halve (i : Interval) (upper : Bool) : Interval :=
  if upper then { i with low := i.middle } else { i with high := i.middle }

end Interval

structure Cell where
  lat : Interval
  lon : Interval

namespace Cell

/-- The whole earth. -/
def earth : Cell :=
  { lat := ⟨.ofInt (-90), .ofInt 90⟩, lon := ⟨.ofInt (-180), .ofInt 180⟩ }

def narrow (cell : Cell) : List Bool → Cell
  | [] => cell
  | [east] => { cell with lon := cell.lon.halve east }
  | east :: north :: rest =>
    narrow { lon := cell.lon.halve east, lat := cell.lat.halve north } rest

def centre (cell : Cell) : GeoPoint :=
  { lat := cell.lat.middle, lon := cell.lon.middle }

end Cell

/-- The point of a geohash. The empty text and texts with other letters have none. -/
def decode? (text : String) : Option GeoPoint :=
  if text.toList = [] then none
  else (bits? text.toList).map fun bits => (Cell.earth.narrow bits).centre

end SearchCriteria.Geohash
