/-!
# Base 64

Three bytes are written as four letters of six bits each; a last group of one or two bytes is
padded with equals signs.
-/

namespace SearchCriteria.Text.Base64

def alphabet : List Char :=
  "ABCDEFGHIJKLMNOPQRSTUVWXYZabcdefghijklmnopqrstuvwxyz0123456789+/".toList

/-- The letter for six bits. -/
def letter (sextet : Nat) : Char :=
  alphabet.getD (sextet % 64) 'A'

def encode : List UInt8 → List Char
  | [] => []
  | [a] =>
    let group := a.toNat * 2 ^ 16
    [letter (group / 2 ^ 18), letter (group / 2 ^ 12), '=', '=']
  | [a, b] =>
    let group := a.toNat * 2 ^ 16 + b.toNat * 2 ^ 8
    [letter (group / 2 ^ 18), letter (group / 2 ^ 12), letter (group / 2 ^ 6), '=']
  | a :: b :: c :: rest =>
    let group := a.toNat * 2 ^ 16 + b.toNat * 2 ^ 8 + c.toNat
    letter (group / 2 ^ 18) :: letter (group / 2 ^ 12) :: letter (group / 2 ^ 6) :: letter group
      :: encode rest

/-- The base 64 form of the UTF-8 bytes of a text. -/
def ofText (text : String) : String :=
  String.ofList (encode text.toUTF8.data.toList)

end SearchCriteria.Text.Base64
