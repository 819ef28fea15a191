import PairLoop.Json.Tree

/-!
The numbers that the numerals of a JSON document stand for. An integer is read exactly. A double
is read fast rather than exactly: the digits are gathered into a significand of 64 bits, and this
is scaled once by a power of ten. The result can differ from the nearest double in the last place.
-/

namespace PairLoop.Json

open PairLoop.Decimal

def significandLimit : Nat := Nat.pow 2 64

/-- Gathers the digits in front of the point, and counts those that are left out: the first one
that no longer fits and all behind it. -/
def gatherWhole (significand : Nat) : List Digit → Nat × Nat
  | [] => (significand, 0)
  | digit :: rest =>
    let next := significand * 10 + digit.val
    if next < significandLimit then gatherWhole next rest else (significand, rest.length + 1)

/-- Gathers the digits behind the point up to the first one that no longer fits, and counts the
gathered ones. -/
def gatherFraction (significand : Nat) : List Digit → Nat × Nat
  | [] => (significand, 0)
  | digit :: rest =>
    let next := significand * 10 + digit.val
    if next < significandLimit then
      let (gathered, count) := gatherFraction next rest
      (gathered, count + 1)
    else (significand, 0)

def greatestPower : Nat := 308

def powerOfTen (exponent : Nat) : Float := Float.ofScientific 1 false exponent

/-- The significand scaled by a power of ten. A number beyond the range of doubles is refused. Far
below one the scaling takes two steps, and beyond these every significand gives zero. -/
def scale? (significand : Nat) (exponent : Int) : Option Float :=
  let number := Float.ofNat significand
  let power := exponent.natAbs
  if 0 ≤ exponent then
    if power ≤ greatestPower then
      let scaled := number * powerOfTen power
      if scaled.isInf then none else some scaled
    else if significand = 0 then some 0.0
    else none
  else if power ≤ greatestPower then some (number / powerOfTen power)
  else if power ≤ 2 * greatestPower then
    some (number / powerOfTen greatestPower / powerOfTen (power - greatestPower))
  else some 0.0

def double? (numeral : Numeral) : Option Float :=
  let (whole, leftOut) := gatherWhole 0 numeral.whole
  let (significand, taken) := gatherFraction whole numeral.fraction
  let written := match numeral.exponent with
    | some exponent => exponent.value
    | none => 0
  (scale? significand (leftOut - taken + written)).map fun number =>
    if numeral.negative then -number else number

/-- The integer of 64 bits that a numeral is read as. It must be written without point and
exponent, and zero without a sign. -/
def int64? (numeral : Numeral) : Option Int64 :=
  let magnitude := valueOf numeral.whole
  if !numeral.fraction.isEmpty || numeral.exponent.isSome then none
  else if numeral.negative then
    if 1 ≤ magnitude ∧ magnitude ≤ Nat.pow 2 63 then some (Int64.ofInt (-(magnitude : Int))) else none
  else if magnitude < Nat.pow 2 63 then some (Int64.ofInt magnitude) else none

def asString? : Json → Option String
  | .string units => stringOf? units
  | _ => none

def asBool? : Json → Option Bool
  | .bool value => some value
  | _ => none

def asDouble? : Json → Option Float
  | .number numeral => double? numeral
  | _ => none

def asInt64? : Json → Option Int64
  | .number numeral => int64? numeral
  | _ => none

def asDoubles? : Json → Option (List Float)
  | .array items => items.mapM asDouble?
  | _ => none

end PairLoop.Json
