import PairLoop.Decimal.Numeral

/-!
Reading a double from free text: an optional sign, then digits with an optional point and an
optional exponent, or the name of an infinity or of what is not a number in any case. At least
one digit stands before or behind the point. The double nearest to the number is taken, and of
two equally near ones that with the even significand.
-/

namespace PairLoop.Decimal

def takeDigits : List Char → List Digit × List Char
  | [] => ([], [])
  | char :: rest =>
    match Digit.ofChar? char with
    | some digit => let (digits, suffix) := takeDigits rest; (digit :: digits, suffix)
    | none => ([], char :: rest)

theorem take_digits_append (digits : List Digit) (suffix : List Char)
    (ends : ∀ char rest, suffix = char :: rest → Digit.ofChar? char = none) :
    takeDigits (digits.map Digit.toChar ++ suffix) = (digits, suffix) := by
  induction digits with
  | nil =>
    cases suffix with
    | nil => rfl
    | cons char rest => simp [takeDigits, ends char rest rfl]
  | cons digit digits induction => simp [takeDigits, Digit.of_char_to_char, induction]

/-- The double nearest to `significand · 10 ^ exponent`. Numbers beyond the range of doubles are
set apart first, so that no power of ten grows with the text. -/
def nearestDouble (significand : Nat) (exponent : Int) : Float :=
  let size := digitCount significand + exponent
  if significand = 0 ∨ size < -330 then 0.0
  else if 310 < size then 1.0 / 0.0
  else if exponent < 0 then Float.ofScientific significand true (-exponent).toNat
  else Float.ofScientific significand false exponent.toNat

def readExponent : List Char → Option Int
  | [] => some 0
  | mark :: rest =>
    if mark != 'e' && mark != 'E' then none
    else
      let (negative, body) := match rest with
        | '-' :: body => (true, body)
        | '+' :: body => (false, body)
        | body => (false, body)
      match takeDigits body with
      | ([], _) => none
      | (digits, []) => some (if negative then -(valueOf digits : Int) else valueOf digits)
      | _ => none

def readMagnitude (text : List Char) : Option Float :=
  let (whole, behind) := takeDigits text
  let (fraction, rest) := match behind with
    | '.' :: tail => takeDigits tail
    | _ => ([], behind)
  if whole.isEmpty && fraction.isEmpty then none
  else (readExponent rest).map fun exponent =>
    nearestDouble (valueOf (whole ++ fraction)) (exponent - fraction.length)

def read? (text : String) : Option Float :=
  let (negative, body) := match text.toList with
    | '-' :: body => (true, body)
    | '+' :: body => (false, body)
    | body => (false, body)
  let name := String.ofList (body.map Char.toLower)
  let magnitude :=
    if name == "inf" || name == "infinity" then some (1.0 / 0.0)
    else if name == "nan" then some (0.0 / 0.0)
    else readMagnitude body
  magnitude.map fun number => if negative then -number else number

end PairLoop.Decimal
