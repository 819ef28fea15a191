import PairLoop.Decimal.Layout

/-!
Literals of doubles in generated code.
-/

namespace PairLoop.Decimal

/-- Literals always have a digit behind the point, unless they have an exponent, which stands
without a sign when it is not negative. -/
def literals : Layout := ⟨-3, 16, .unsigned, .away⟩

def literal (number : Float) : String :=
  match literals.numeral? number with
  | some numeral => String.ofList numeral.text
  | none => if number.isNaN then "NaN" else if number < 0.0 then "-inf" else "inf"

end PairLoop.Decimal
