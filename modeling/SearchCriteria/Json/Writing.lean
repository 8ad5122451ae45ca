import SearchCriteria.Json.Basic
import SearchCriteria.Number.Layout

/-!
# JSON text

Values are written without blanks. Strings keep their characters, but for the quotation mark, the
backslash, control characters and the three characters beyond ASCII that some readers take for the
end of a line.
-/

namespace SearchCriteria.Json

def hexDigit (n : Nat) : Char :=
  (Nat.digitChar (n % 16))

/-- The four-digit escape of a code point. -/
def unicodeEscape (n : Nat) : List Char :=
  ['\\', 'u', hexDigit (n / 4096), hexDigit (n / 256), hexDigit (n / 16), hexDigit n]

def escapeChar (c : Char) : List Char :=
  match c.toNat with
  | 0x22 => ['\\', c]
  | 0x5C => ['\\', c]
  | 0x08 => ['\\', 'b']
  | 0x09 => ['\\', 't']
  | 0x0A => ['\\', 'n']
  | 0x0C => ['\\', 'f']
  | 0x0D => ['\\', 'r']
  | n => if n < 0x20 ∨ n = 0x85 ∨ n = 0x2028 ∨ n = 0x2029 then unicodeEscape n else [c]

def writeString (text : String) : String :=
  "\"" ++ String.ofList (text.toList.flatMap escapeChar) ++ "\""

mutual

/-- The text of a value. -/
def write : Json → String
  | .null => "null"
  | .bool true => "true"
  | .bool false => "false"
  | .integer n => String.ofList (Decimal.intText n)
  | .number x => String.ofList x.jsonChars
  | .string text => writeString text
  | .array items => "[" ++ ",".intercalate (writeItems items) ++ "]"
  | .object fields => "\x7b" ++ ",".intercalate (writeFields fields) ++ "\x7d"

def writeItems : List Json → List String
  | [] => []
  | item :: rest => write item :: writeItems rest

def writeFields : List (String × Json) → List String
  | [] => []
  | (name, value) :: rest => (writeString name ++ ":" ++ write value) :: writeFields rest

end

end SearchCriteria.Json
