/-!
Sets of code points given as closed ranges. Each property of the standard that the library
consults is such a list beside this module. Code points below 128 are never looked up: their
membership is stated directly, so that ASCII text is classified without a table.
-/

namespace PairLoop.Unicode

/-- Whether the number of a code point lies in one of the closed ranges. -/
def inRanges (ranges : List (Nat × Nat)) (code : Nat) : Bool :=
  ranges.any fun range => range.1 ≤ code && code ≤ range.2

def isAscii (char : Char) : Bool := char.toNat < 128

/-- Extends a class given on ASCII by the ranges of its other members. -/
def extendAscii (ascii : Char → Bool) (ranges : List (Nat × Nat)) (char : Char) : Bool :=
  if isAscii char then ascii char else inRanges ranges char.toNat

theorem extend_ascii_of_ascii (ascii : Char → Bool) (ranges : List (Nat × Nat)) (char : Char)
    (small : isAscii char = true) : extendAscii ascii ranges char = ascii char := by
  simp [extendAscii, small]

end PairLoop.Unicode
