import SearchCriteria.Json.Basic
import SearchCriteria.Number.Reading

/-!
# JSON tokens

The scanner takes one character at a time, so it is a fold over the text. A number or a word ends at
the first character that cannot belong to it, and that character is scanned again on its own.
-/

namespace SearchCriteria.Json

/-- A token of JSON text. -/
inductive Token where
  | openArray
  | closeArray
  | openObject
  | closeObject
  | colon
  | comma
  | null
  | bool (value : Bool)
  | integer (value : Int)
  /-- A double, or nothing if the number is too large for one. -/
  | number (value : Option Double)
  /-- A text, or nothing if a surrogate in it has no partner. -/
  | string (value : Option String)

namespace Token

/-- Takes a JSON number apart: no plus sign, no needless zero in front, digits on both sides of a
point. -/
def numeral? (text : List Char) : Option Numeral :=
  let negative := text.head? == some '-'
  let unsigned := if negative then text.drop 1 else text
  let whole := unsigned.takeWhile Char.isDigit
  let rest := unsigned.dropWhile Char.isDigit
  let fractionMissing := rest.head? == some '.' && ((rest.drop 1).takeWhile Char.isDigit).isEmpty
  let paddedWithZero := 1 < whole.length && whole.head? == some '0'
  if whole.isEmpty || paddedWithZero || fractionMissing then none
  else Numeral.readUnsigned? negative unsigned

/-- A number without point and exponent is an integer if it fits 64 bits, signed or unsigned. A
negative zero is a double. -/
def ofNumber? (text : List Char) : Option Token :=
  (numeral? text).map fun numeral =>
    let integral := text.all fun c => c.isDigit || c == '-'
    let signed : Int := if numeral.negative then -(numeral.digits : Int) else numeral.digits
    let fits := -9223372036854775808 ≤ signed && signed < UInt64.size
    if integral && fits && !(numeral.negative && numeral.digits == 0) then .integer signed
    else
      let value := Double.ofNumeral Double.doubleFormat numeral
      .number (if value.isFinite then some value else none)

def ofWord? : List Char → Option Token
  | ['n', 'u', 'l', 'l'] => some .null
  | ['t', 'r', 'u', 'e'] => some (.bool true)
  | ['f', 'a', 'l', 's', 'e'] => some (.bool false)
  | _ => none

/-- The text of a list of code points, in which two surrogates in a row stand for one character. -/
def textOfPoints? : List Nat → Option (List Char)
  | [] => some []
  | [point] => if 0xD800 ≤ point ∧ point < 0xE000 then none else some [Char.ofNat point]
  | point :: next :: rest =>
    if 0xD800 ≤ point ∧ point < 0xDC00 ∧ 0xDC00 ≤ next ∧ next < 0xE000 then
      (textOfPoints? rest).map
        (Char.ofNat (0x10000 + (point - 0xD800) * 0x400 + (next - 0xDC00)) :: ·)
    else if 0xD800 ≤ point ∧ point < 0xE000 then none
    else (textOfPoints? (next :: rest)).map (Char.ofNat point :: ·)

def ofPoints (points : List Nat) : Token :=
  .string ((textOfPoints? points).map String.ofList)

end Token

/-- Where the scanner stands. What has been read of a token is kept back to front. -/
inductive Scanner.Mode where
  | between
  | word (read : List Char)
  | number (read : List Char)
  | string (points : List Nat)
  /-- Behind a backslash. -/
  | escape (points : List Nat)
  /-- Inside a four-digit escape, with the number of digits still to come. -/
  | hex (points : List Nat) (missing value : Nat)

/-- The scanner: the tokens so far, back to front, and the one being read. -/
structure Scanner where
  tokens : List Token
  mode : Scanner.Mode

namespace Scanner

def start : Scanner := ⟨[], .between⟩

def emit (s : Scanner) (token : Token) : Scanner :=
  ⟨token :: s.tokens, .between⟩

def isBlank (c : Char) : Bool :=
  c == ' ' || c == '\t' || c == '\n' || c == '\r'

/-- Scans a character between two tokens. -/
def begin? (s : Scanner) (c : Char) : Option Scanner :=
  if isBlank c then some s
  else match c with
    | '[' => some (s.emit .openArray)
    | ']' => some (s.emit .closeArray)
    | '\x7b' => some (s.emit .openObject)
    | '\x7d' => some (s.emit .closeObject)
    | ':' => some (s.emit .colon)
    | ',' => some (s.emit .comma)
    | '\"' => some { s with mode := .string [] }
    | _ =>
      if c.isDigit || c == '-' then some { s with mode := .number [c] }
      else if c.isLower then some { s with mode := .word [c] }
      else none

/-- Ends a number or a word. -/
def finish? (s : Scanner) : Option Scanner :=
  match s.mode with
  | .between => some s
  | .word read => (Token.ofWord? read.reverse).map s.emit
  | .number read => (Token.ofNumber? read.reverse).map s.emit
  | _ => none

def isNumberChar (c : Char) : Bool :=
  c.isDigit || c == '.' || c == 'e' || c == 'E' || c == '+' || c == '-'

/-- The code point that a letter behind a backslash stands for. -/
def escaped? : Char → Option Nat
  | '\"' => some 0x22
  | '\\' => some 0x5C
  | '/' => some 0x2F
  | 'b' => some 0x08
  | 'f' => some 0x0C
  | 'n' => some 0x0A
  | 'r' => some 0x0D
  | 't' => some 0x09
  | _ => none

def hexValue? (c : Char) : Option Nat :=
  if c.isDigit then some (c.toNat - 0x30)
  else if 0x61 ≤ c.toNat ∧ c.toNat ≤ 0x66 then some (c.toNat - 0x61 + 10)
  else if 0x41 ≤ c.toNat ∧ c.toNat ≤ 0x46 then some (c.toNat - 0x41 + 10)
  else none

def step? (s : Scanner) (c : Char) : Option Scanner :=
  match s.mode with
  | .between => s.begin? c
  | .word read =>
    if c.isLower then some { s with mode := .word (c :: read) }
    else s.finish?.bind (·.begin? c)
  | .number read =>
    if isNumberChar c then some { s with mode := .number (c :: read) }
    else s.finish?.bind (·.begin? c)
  | .string points =>
    if c == '\"' then some (s.emit (Token.ofPoints points.reverse))
    else if c == '\\' then some { s with mode := .escape points }
    else if c.toNat < 0x20 then none
    else some { s with mode := .string (c.toNat :: points) }
  | .escape points =>
    if c == 'u' then some { s with mode := .hex points 4 0 }
    else (escaped? c).map fun point => { s with mode := .string (point :: points) }
  | .hex points missing value =>
    (hexValue? c).map fun digit =>
      if missing ≤ 1 then { s with mode := .string ((value * 16 + digit) :: points) }
      else { s with mode := .hex points (missing - 1) (value * 16 + digit) }

end Scanner

/-- The tokens of a text, if it is made of tokens. -/
def tokens? (text : List Char) : Option (List Token) := do
  let s ← text.foldlM Scanner.step? Scanner.start
  return (← s.finish?).tokens.reverse

end SearchCriteria.Json
