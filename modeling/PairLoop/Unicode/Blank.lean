import PairLoop.Unicode.Ranges

/-!
White space: the code points with the property White_Space. The separators U+001C to U+001F,
the zero width space and the byte order mark are not among them.
-/

namespace PairLoop.Unicode

/-- The code points with the property White_Space. -/
def whiteSpaceRanges : List (Nat × Nat) :=
  [(0x0009, 0x000D), (0x0020, 0x0020), (0x0085, 0x0085), (0x00A0, 0x00A0), (0x1680, 0x1680),
   (0x2000, 0x200A), (0x2028, 0x2029), (0x202F, 0x202F), (0x205F, 0x205F), (0x3000, 0x3000)]

def isWhiteSpace (char : Char) : Bool := inRanges whiteSpaceRanges char.toNat

def trim (text : List Char) : List Char :=
  ((text.dropWhile isWhiteSpace).reverse.dropWhile isWhiteSpace).reverse

end PairLoop.Unicode
