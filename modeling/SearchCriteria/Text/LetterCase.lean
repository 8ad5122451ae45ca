/-!
# Letter case

Upper and lower case forms by the full case mapping of the Unicode standard, as far as they lie in
ASCII. That is enough to look a text up among names made of ASCII letters: a character whose mapped
form is not ASCII is kept as it is, and since it is not ASCII itself, no such name holds it.

Ten characters outside ASCII have an upper case form inside, some of them one of two or three
letters, and one has such a lower case form.
-/

namespace SearchCriteria.Text

/-- Upper case of one character: the ASCII letters, and the characters beyond ASCII whose upper
case form is made of them. -/
def upperForm (c : Char) : List Char :=
  if c.isLower then [c.toUpper]
  else match c.toNat with
    | 0x00DF => ['S', 'S']
    | 0x0131 => ['I']
    | 0x017F => ['S']
    | 0xFB00 => ['F', 'F']
    | 0xFB01 => ['F', 'I']
    | 0xFB02 => ['F', 'L']
    | 0xFB03 => ['F', 'F', 'I']
    | 0xFB04 => ['F', 'F', 'L']
    | 0xFB05 => ['S', 'T']
    | 0xFB06 => ['S', 'T']
    | _ => [c]

/-- Lower case of one character: the ASCII letters and the Kelvin sign. -/
def lowerForm (c : Char) : Char :=
  if c.isUpper then c.toLower else if c.toNat = 0x212A then 'k' else c

def upper (text : String) : String :=
  String.ofList (text.toList.flatMap upperForm)

def lower (text : String) : String :=
  String.ofList (text.toList.map lowerForm)

end SearchCriteria.Text
