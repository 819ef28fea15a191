import PairLoop.Decimal.Shortest

/-!
Numerals of doubles. All formats write the shortest digits that read back; a layout holds what
they do differently: where positional notation ends, the sign of an exponent, and the choice
between two equally near decimals.
-/

namespace PairLoop.Decimal

structure Layout where
  /-- The least place of the decimal point that is still written positionally. -/
  leastPoint : Int
  /-- The greatest place of the decimal point that is still written positionally. -/
  greatestPoint : Int
  /-- The sign in front of an exponent that is not negative. -/
  risingSign : ExponentSign
  tie : Tie
deriving DecidableEq

/-- The numeral with all digits in their places and at least one digit behind the point. -/
def positional (negative : Bool) (number : Significant) : Numeral :=
  let places := number.point.toNat
  let leading := List.replicate (-number.point).toNat Digit.zero
  let digits := leading ++ number.digits ++ List.replicate (places - number.digits.length) Digit.zero
  let orZero (part : List Digit) := if part.isEmpty then [.zero] else part
  ⟨negative, orZero (digits.take places), orZero (digits.drop places), none⟩

/-- The numeral with one digit in front of the point and an exponent. -/
def withExponent (layout : Layout) (negative : Bool) (number : Significant) : Numeral :=
  let power := number.point - 1
  let sign := if power < 0 then ExponentSign.minus else layout.risingSign
  ⟨negative, number.digits.take 1, number.digits.drop 1, some ⟨sign, digitsOf power.natAbs⟩⟩

/-- The numeral of a double. Infinities and what is not a number have none. -/
def Layout.numeral? (layout : Layout) (number : Float) : Option Numeral :=
  let bits := number.toBits.toNat
  let negative := Nat.pow 2 63 ≤ bits
  let magnitude := bits % Nat.pow 2 63
  if 2047 * Nat.pow 2 52 ≤ magnitude then none
  else if magnitude = 0 then some ⟨negative, [.zero], [.zero], none⟩
  else
    let digits := (Band.ofBits magnitude).shortest layout.tie
    if layout.leastPoint ≤ digits.point ∧ digits.point ≤ layout.greatestPoint then
      some (positional negative digits)
    else some (withExponent layout negative digits)

end PairLoop.Decimal
