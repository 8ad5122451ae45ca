/-!
# White space

The characters with the Unicode property White_Space, as closed ranges of code points. The set has
been the same since version 6.3 of the standard.
-/

namespace SearchCriteria.Text

/-- Closed ranges of code points, ascending and apart. -/
def blankRanges : List (Nat × Nat) :=
  [(0x09, 0x0D), (0x20, 0x20), (0x85, 0x85), (0xA0, 0xA0), (0x1680, 0x1680), (0x2000, 0x200A),
   (0x2028, 0x2029), (0x202F, 0x202F), (0x205F, 0x205F), (0x3000, 0x3000)]

def isBlank (c : Char) : Bool :=
  blankRanges.any fun range => range.1 ≤ c.toNat && c.toNat ≤ range.2

/-- A text of white space alone; the empty text is one. -/
def isBlankText (text : String) : Bool :=
  text.toList.all isBlank

/-- The ranges ascend and leave a gap between neighbours, and hold twenty-five characters. -/
example : blankRanges.Pairwise (fun a b => a.2 + 1 < b.1) ∧
    (blankRanges.map fun range => range.2 + 1 - range.1).sum = 25 := by decide

end SearchCriteria.Text
