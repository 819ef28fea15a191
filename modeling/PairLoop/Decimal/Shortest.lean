import PairLoop.Decimal.Numeral

/-!
The shortest decimal that reads back as a given double. A positive double is `significand · 2 ^
exponent`; the numbers that round to it form a band around it, whose ends belong to it when the
significand is even. Of the decimals in the band those with the fewest digits are taken, and of
these the nearest. On one grid of decimals it is enough to look at the two neighbours of the
double itself, for if any point of the grid lies in the band, one of these two does.
-/

namespace PairLoop.Decimal

/-- Which of two equally near decimals is taken. -/
inductive Tie
  /-- The one that is further from zero. -/
  | away
  /-- The one whose last digit is even. -/
  | even
deriving DecidableEq

/-- A positive double with the numbers that round to it. All three bounds count quarters of the
spacing of doubles, which is `4 · 2 ^ exponent`. -/
structure Band where
  low : Nat
  middle : Nat
  high : Nat
  exponent : Int
  /-- Whether the ends of the band round to the double too. -/
  closed : Bool
deriving DecidableEq

/-- The band of a positive finite double, from its bits without the sign. Behind a power of two
the doubles lie twice as close, so there the band reaches down half as far. -/
def Band.ofBits (bits : Nat) : Band :=
  let fraction := bits % Nat.pow 2 52
  let stored := bits / Nat.pow 2 52
  let significand := if stored = 0 then fraction else fraction + Nat.pow 2 52
  let exponent : Int := (if stored = 0 then 1 else stored : Nat) - 1077
  let reach := if fraction = 0 ∧ 1 < stored then 1 else 2
  ⟨4 * significand - reach, 4 * significand, 4 * significand + 2, exponent, significand % 2 == 0⟩

/-- Multipliers that bring a binary unit `2 ^ exponent` and a decimal unit `10 ^ grid` to a common
whole unit. -/
def commonUnits (exponent grid : Int) : Nat × Nat :=
  (Nat.pow 2 exponent.toNat * Nat.pow 10 (-grid).toNat,
    Nat.pow 10 grid.toNat * Nat.pow 2 (-exponent).toNat)

/-- Whether a decimal lies in the band, both counted in the common unit. -/
def Band.holds (band : Band) (binary decimal : Nat) : Bool :=
  if band.closed then band.low * binary ≤ decimal && decimal ≤ band.high * binary
  else band.low * binary < decimal && decimal < band.high * binary

/-- The multiple of `10 ^ grid` in the band that is nearest to its middle, if there is one. -/
def Band.nearest? (band : Band) (tie : Tie) (grid : Int) : Option Nat :=
  let (binary, decimal) := commonUnits band.exponent grid
  let middle := band.middle * binary
  let below := middle / decimal
  let above := below + 1
  match band.holds binary (below * decimal), band.holds binary (above * decimal) with
  | true, true =>
    let down := middle - below * decimal
    let up := above * decimal - middle
    if down < up then some below
    else if up < down then some above
    else match tie with
      | .away => some above
      | .even => some (if below % 2 = 0 then below else above)
  | true, false => some below
  | false, true => some above
  | false, false => none

/-- The number of digits in front of the decimal point of a positive double. It is zero or negative
for numbers below one tenth. -/
def Band.point (band : Band) : Int :=
  let shift := 400
  let (binary, decimal) := commonUnits band.exponent (-shift)
  digitCount (band.middle * binary / decimal) - shift

/-- Digits behind a decimal point that stands `point` places to the right of the first of them:
the number `0.d₁d₂… · 10 ^ point`. -/
structure Significant where
  digits : List Digit
  point : Int
deriving DecidableEq

def withoutEndZeros (digits : List Digit) : List Digit :=
  (digits.reverse.dropWhile fun digit => digit == .zero).reverse

/-- The multiple `count · 10 ^ grid` as significant digits. -/
def Significant.ofGrid (count : Nat) (grid : Int) : Significant :=
  let digits := digitsOf count
  ⟨withoutEndZeros digits, digits.length + grid⟩

/-- The shortest decimal in the band: the first grid, from coarse to fine, that has a point in it.
Seventeen digits tell all doubles apart. -/
def Band.shortest (band : Band) (tie : Tie) : Significant :=
  let grids := (List.range 17).map fun count => band.point - (count + 1 : Nat)
  match grids.findSome? fun grid => (band.nearest? tie grid).map fun count => (count, grid) with
  | some (count, grid) => .ofGrid count grid
  | none => .ofGrid 0 0

end PairLoop.Decimal
