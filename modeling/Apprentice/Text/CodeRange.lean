/-!
# Ranges of code points

A character class of the Unicode standard is kept as the list of its maximal ranges, both ends
included, in ascending order.
-/

namespace Apprentice.Text

/-- Whether a code point lies in one of the ranges. -/
def memRanges (ranges : List (Nat × Nat)) (code : Nat) : Bool :=
  ranges.any fun range => range.1 ≤ code && code ≤ range.2

/-- Whether a character's code point lies in one of the ranges. -/
def charIn (ranges : List (Nat × Nat)) (c : Char) : Bool :=
  memRanges ranges c.toNat

end Apprentice.Text
