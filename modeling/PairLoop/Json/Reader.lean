import PairLoop.Decimal.Reading
import PairLoop.Json.Tree

/-!
Reading JSON. The grammar is the strict one: no comments, no trailing commas, no leading zeros,
and only spaces, tabs, line feeds and carriage returns between the tokens. Each call of a reader
passes on a smaller bound; a document takes at most two calls for each of its code points.
-/

namespace PairLoop.Json

open PairLoop.Decimal

def isSpace (char : Char) : Bool :=
  char == ' ' || char == '\t' || char == '\n' || char == '\r'

def skipSpaces (text : List Char) : List Char := text.dropWhile isSpace

/-- Reads the digits behind the point of a number, if there is a point. -/
def readFraction : List Char → Option (List Digit × List Char)
  | '.' :: rest =>
    match takeDigits rest with
    | ([], _) => none
    | (digits, suffix) => some (digits, suffix)
  | text => some ([], text)

def readExponentPart : List Char → Option (Option Exponent × List Char)
  | [] => some (none, [])
  | mark :: rest =>
    if mark == 'e' || mark == 'E' then
      let (sign, body) := match rest with
        | '+' :: body => (ExponentSign.plus, body)
        | '-' :: body => (ExponentSign.minus, body)
        | body => (ExponentSign.unsigned, body)
      match takeDigits body with
      | ([], _) => none
      | (digits, suffix) => some (some ⟨sign, digits⟩, suffix)
    else some (none, mark :: rest)

/-- Whether digits can stand in front of the point: there is one, and a zero only alone. -/
def isWhole : List Digit → Bool
  | [] => false
  | [_] => true
  | first :: _ => first != .zero

def readNumeral (text : List Char) : Option (Numeral × List Char) := do
  let (negative, body) := match text with
    | '-' :: body => (true, body)
    | body => (false, body)
  let (whole, behindWhole) := takeDigits body
  if isWhole whole then
    let (fraction, behindFraction) ← readFraction behindWhole
    let (exponent, suffix) ← readExponentPart behindFraction
    some (⟨negative, whole, fraction, exponent⟩, suffix)
  else none

/-- Whether a text cannot continue a number in front of it. -/
def EndsNumber (text : List Char) : Prop :=
  ∀ char rest, text = char :: rest →
    Digit.ofChar? char = none ∧ char ≠ '.' ∧ char ≠ 'e' ∧ char ≠ 'E'

theorem read_exponent_part_text (exponent : Option Exponent) (suffix : List Char)
    (written : ∀ part, exponent = some part → part.digits ≠ []) (ends : EndsNumber suffix) :
    readExponentPart (exponentText exponent ++ suffix) = some (exponent, suffix) := by
  cases exponent with
  | none =>
    cases suffix with
    | nil => rfl
    | cons char rest =>
      have differs := ends char rest rfl
      simp [exponentText, readExponentPart, differs.2.2.1, differs.2.2.2]
  | some part =>
    rcases part with ⟨sign, digits⟩
    have digitsRead : takeDigits (digits.map Digit.toChar ++ suffix) = (digits, suffix) :=
      take_digits_append digits suffix fun char rest same => (ends char rest same).1
    have present : digits ≠ [] := written ⟨sign, digits⟩ rfl
    cases sign with
    | plus =>
      simp [exponentText, Exponent.text, ExponentSign.text, readExponentPart, digitsRead]
    | minus =>
      simp [exponentText, Exponent.text, ExponentSign.text, readExponentPart, digitsRead]
    | unsigned =>
      cases digits with
      | nil => exact absurd rfl present
      | cons digit digits =>
        have notSign := Digit.to_char_ne_mark digit
        rw [List.map_cons, List.cons_append] at digitsRead
        simp [exponentText, Exponent.text, ExponentSign.text, readExponentPart, digitsRead, notSign]

/-- A text that begins with an exponent, or cannot continue a number, has no digit and no point at
its beginning. -/
theorem exponent_text_head (exponent : Option Exponent) (suffix : List Char)
    (ends : EndsNumber suffix) (char : Char) (rest : List Char)
    (same : exponentText exponent ++ suffix = char :: rest) :
    Digit.ofChar? char = none ∧ char ≠ '.' := by
  cases exponent with
  | none => exact ⟨(ends char rest same).1, (ends char rest same).2.1⟩
  | some part =>
    have heads : 'e' = char := (List.cons.inj same).1
    subst heads
    decide

theorem read_fraction_text (fraction : List Digit) (suffix : List Char)
    (ends : ∀ char rest, suffix = char :: rest → Digit.ofChar? char = none ∧ char ≠ '.') :
    readFraction (fractionText fraction ++ suffix) = some (fraction, suffix) := by
  cases fraction with
  | nil =>
    cases suffix with
    | nil => rfl
    | cons char rest => simp [fractionText, readFraction, (ends char rest rfl).2]
  | cons digit digits =>
    have digitsRead : takeDigits ((digit :: digits).map Digit.toChar ++ suffix) =
        (digit :: digits, suffix) :=
      take_digits_append (digit :: digits) suffix fun char rest same => (ends char rest same).1
    rw [List.map_cons, List.cons_append] at digitsRead
    simp [fractionText, readFraction, digitsRead]

/-- Reading a numeral gives it back, if JSON admits its digits and what follows cannot continue
it. -/
theorem read_numeral_text (numeral : Numeral) (suffix : List Char)
    (whole : isWhole numeral.whole = true)
    (written : ∀ part, numeral.exponent = some part → part.digits ≠ [])
    (ends : EndsNumber suffix) :
    readNumeral (numeral.text ++ suffix) = some (numeral, suffix) := by
  rcases numeral with ⟨negative, digits, fraction, exponent⟩
  have tail := exponent_text_head exponent suffix ends
  have fractionRead := read_fraction_text fraction (exponentText exponent ++ suffix) tail
  have exponentRead := read_exponent_part_text exponent suffix written ends
  have wholeRead : takeDigits (digits.map Digit.toChar ++
      (fractionText fraction ++ (exponentText exponent ++ suffix))) =
      (digits, fractionText fraction ++ (exponentText exponent ++ suffix)) := by
    refine take_digits_append digits _ fun char rest same => ?_
    cases fraction with
    | nil => exact (tail char rest same).1
    | cons digit others =>
      have heads : '.' = char := (List.cons.inj same).1
      subst heads
      decide
  change isWhole digits = true at whole
  cases digits with
  | nil => exact absurd whole (by decide)
  | cons digit others =>
    have notSign := (Digit.to_char_ne_mark digit).2.1
    rw [List.map_cons, List.cons_append] at wholeRead
    cases negative with
    | true =>
      simp [Numeral.text, readNumeral, wholeRead, whole, fractionRead, exponentRead]
    | false =>
      simp [Numeral.text, readNumeral, wholeRead, whole, fractionRead, exponentRead, notSign]

mutual

def readValue : Nat → List Char → Option (Json × List Char)
  | 0, _ => none
  | bound + 1, text =>
    match skipSpaces text with
    | 'n' :: 'u' :: 'l' :: 'l' :: rest => some (.null, rest)
    | 't' :: 'r' :: 'u' :: 'e' :: rest => some (.bool true, rest)
    | 'f' :: 'a' :: 'l' :: 's' :: 'e' :: rest => some (.bool false, rest)
    | '"' :: rest => (readUnits rest).map fun found => (.string found.1, found.2)
    | '[' :: rest =>
      match skipSpaces rest with
      | ']' :: suffix => some (.array [], suffix)
      | items => (readItems bound items).map fun found => (.array found.1, found.2)
    | '{' :: rest =>
      match skipSpaces rest with
      | '}' :: suffix => some (.object [], suffix)
      | fields => (readFields bound fields).map fun found => (.object found.1, found.2)
    | other => (readNumeral other).map fun found => (.number found.1, found.2)

def readItems : Nat → List Char → Option (List Json × List Char)
  | 0, _ => none
  | bound + 1, text =>
    match readValue bound text with
    | none => none
    | some (item, behind) =>
      match skipSpaces behind with
      | ',' :: rest => (readItems bound rest).map fun found => (item :: found.1, found.2)
      | ']' :: suffix => some ([item], suffix)
      | _ => none

def readFields : Nat → List Char → Option (List (List Nat × Json) × List Char)
  | 0, _ => none
  | bound + 1, text =>
    match skipSpaces text with
    | '"' :: rest =>
      match readUnits rest with
      | none => none
      | some (key, behindKey) =>
        match skipSpaces behindKey with
        | ':' :: body =>
          match readValue bound body with
          | none => none
          | some (value, behind) =>
            match skipSpaces behind with
            | ',' :: others =>
              (readFields bound others).map fun found => ((key, value) :: found.1, found.2)
            | '}' :: suffix => some ([(key, value)], suffix)
            | _ => none
        | _ => none
    | _ => none

end

/-- Reads a text that holds one document and nothing else. -/
def read? (text : String) : Option Json :=
  let chars := text.toList
  match readValue (2 * chars.length + 2) chars with
  | some (document, suffix) => if (skipSpaces suffix).isEmpty then some document else none
  | none => none

end PairLoop.Json
