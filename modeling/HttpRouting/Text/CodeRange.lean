/-!
# Ranges of code points

A character class of the Unicode standard is a finite union of closed ranges
of code points.  The tables of the sibling modules are such lists, and
`inRanges` reads them.
-/

namespace HttpRouting.Text

def inRanges (ranges : List (Nat × Nat)) (c : Char) : Bool :=
  ranges.any fun range => range.1 ≤ c.toNat && c.toNat ≤ range.2

end HttpRouting.Text
