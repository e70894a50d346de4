import HttpRouting.Text.CodeRange

/-!
# Blank characters

The characters that count as white space: the Unicode spaces and line
separators, and the four information separators U+001C to U+001F.
-/

namespace HttpRouting.Text

def blankRanges : List (Nat × Nat) :=
  [
    (0x9, 0xd), (0x1c, 0x20), (0x85, 0x85), (0xa0, 0xa0), (0x1680, 0x1680), (0x2000, 0x200a),
    (0x2028, 0x2029), (0x202f, 0x202f), (0x205f, 0x205f), (0x3000, 0x3000)]

def isBlank (c : Char) : Bool := inRanges blankRanges c

/-! ## Removing blanks from the ends -/

def trimBlankLeft (s : List Char) : List Char := s.dropWhile isBlank

def trimBlankRight (s : List Char) : List Char := (s.reverse.dropWhile isBlank).reverse

def trimBlank (s : List Char) : List Char := trimBlankRight (trimBlankLeft s)

end HttpRouting.Text
