/-!
Decimal numerals as they are written: a sign, digits in front of the point and behind it, and an
exponent. A numeral is text with a structure, not a number; what number it stands for is decided
where it is read.
-/

namespace PairLoop.Decimal

abbrev Digit := Fin 10

namespace Digit

def zero : Digit := ⟨0, by decide⟩

def toChar (digit : Digit) : Char := Char.ofNat (48 + digit.val)

def ofChar? (char : Char) : Option Digit :=
  if bounds : 48 ≤ char.toNat ∧ char.toNat < 58 then some ⟨char.toNat - 48, by omega⟩ else none

theorem of_char_to_char (digit : Digit) : ofChar? digit.toChar = some digit := by
  revert digit
  decide

theorem to_char_ne_mark (digit : Digit) :
    digit.toChar ≠ '+' ∧ digit.toChar ≠ '-' ∧ digit.toChar ≠ '.' := by
  revert digit
  decide

end Digit

/-- The digits of a natural number, without leading zeros; zero has one digit. -/
def digitsOf (number : Nat) : List Digit :=
  if number < 10 then [Fin.ofNat 10 number]
  else digitsOf (number / 10) ++ [Fin.ofNat 10 number]
termination_by number

def valueOf (digits : List Digit) : Nat :=
  digits.foldl (fun value digit => value * 10 + digit.val) 0

theorem value_of_append_digit (digits : List Digit) (digit : Digit) :
    valueOf (digits ++ [digit]) = valueOf digits * 10 + digit.val := by
  simp [valueOf]

theorem value_of_digits_of (number : Nat) : valueOf (digitsOf number) = number := by
  induction number using Nat.strongRecOn with
  | ind number induction =>
    unfold digitsOf
    split
    · next small => simp [valueOf, Fin.ofNat, Nat.mod_eq_of_lt small]
    · next large =>
      rw [value_of_append_digit, induction (number / 10) (by omega)]
      simp only [Fin.ofNat]
      omega

theorem digits_of_ne_nil (number : Nat) : digitsOf number ≠ [] := by
  unfold digitsOf
  split <;> simp

/-- The number of digits of a natural number. Long numbers are shortened by sixteen digits at a
time. -/
def digitCount (number : Nat) : Nat :=
  if number < 10 then 1
  else if number < Nat.pow 10 16 then digitCount (number / 10) + 1
  else digitCount (number / Nat.pow 10 16) + 16
termination_by number

inductive ExponentSign
  | unsigned
  | plus
  | minus
deriving DecidableEq

structure Exponent where
  sign : ExponentSign
  digits : List Digit
deriving DecidableEq

def Exponent.value (exponent : Exponent) : Int :=
  match exponent.sign with
  | .minus => -(valueOf exponent.digits : Int)
  | _ => valueOf exponent.digits

/-- A decimal numeral. Without digits behind the point, no point is written. -/
structure Numeral where
  negative : Bool
  whole : List Digit
  fraction : List Digit
  exponent : Option Exponent
deriving DecidableEq

def Numeral.ofInt (number : Int) : Numeral := ⟨number < 0, digitsOf number.natAbs, [], none⟩

def ExponentSign.text : ExponentSign → List Char
  | .unsigned => []
  | .plus => ['+']
  | .minus => ['-']

def Exponent.text (exponent : Exponent) : List Char :=
  'e' :: exponent.sign.text ++ exponent.digits.map Digit.toChar

def fractionText (fraction : List Digit) : List Char :=
  if fraction.isEmpty then [] else '.' :: fraction.map Digit.toChar

def exponentText : Option Exponent → List Char
  | none => []
  | some exponent => exponent.text

def Numeral.text (numeral : Numeral) : List Char :=
  (if numeral.negative then ['-'] else []) ++ numeral.whole.map Digit.toChar ++
    fractionText numeral.fraction ++ exponentText numeral.exponent

end PairLoop.Decimal
