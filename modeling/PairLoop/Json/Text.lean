/-!
String literals of JSON. A literal is a sequence of units: a code point written as itself or as an
escape, or one half of a surrogate pair, which only an escape can write. A literal stands for a
text when every half in it is part of a pair.
-/

namespace PairLoop.Json

def hexDigit (value : Nat) : Char :=
  if value < 10 then Char.ofNat (48 + value) else Char.ofNat (87 + value)

def hexValue? (char : Char) : Option Nat :=
  let code := char.toNat
  if 48 ≤ code ∧ code ≤ 57 then some (code - 48)
  else if 65 ≤ code ∧ code ≤ 70 then some (code - 55)
  else if 97 ≤ code ∧ code ≤ 102 then some (code - 87)
  else none

theorem hex_value_hex_digit (value : Nat) (small : value < 16) :
    hexValue? (hexDigit value) = some value := by
  have all : ∀ digit : Fin 16, hexValue? (hexDigit digit.val) = some digit.val := by decide
  exact all ⟨value, small⟩

def unicodeEscape (unit : Nat) : List Char :=
  ['\\', 'u', hexDigit (unit / 4096 % 16), hexDigit (unit / 256 % 16), hexDigit (unit / 16 % 16),
   hexDigit (unit % 16)]

def isHighHalf (unit : Nat) : Bool := 0xD800 ≤ unit && unit < 0xDC00

def isLowHalf (unit : Nat) : Bool := 0xDC00 ≤ unit && unit < 0xE000

/-- How a unit is written: the quote, the backslash and the controls are escaped, and so is a half
of a pair, which has no other form. -/
def unitText (unit : Nat) : List Char :=
  if unit = 0x22 then ['\\', '"']
  else if unit = 0x5C then ['\\', '\\']
  else if unit = 0x08 then ['\\', 'b']
  else if unit = 0x09 then ['\\', 't']
  else if unit = 0x0A then ['\\', 'n']
  else if unit = 0x0C then ['\\', 'f']
  else if unit = 0x0D then ['\\', 'r']
  else if unit < 0x20 || isHighHalf unit || isLowHalf unit then unicodeEscape unit
  else [Char.ofNat unit]

def stringLiteral (units : List Nat) : List Char := '"' :: units.flatMap unitText ++ ['"']

def unitsOf (text : String) : List Nat := text.toList.map Char.toNat

def escapeValue? : Char → Option Nat
  | '"' => some 0x22
  | '\\' => some 0x5C
  | '/' => some 0x2F
  | 'b' => some 0x08
  | 'f' => some 0x0C
  | 'n' => some 0x0A
  | 'r' => some 0x0D
  | 't' => some 0x09
  | _ => none

def unitOfHex? (first second third fourth : Char) : Option Nat := do
  let high ← hexValue? first
  let upper ← hexValue? second
  let lower ← hexValue? third
  let low ← hexValue? fourth
  some (((high * 16 + upper) * 16 + lower) * 16 + low)

/-- Reads a string literal behind its opening quote: its units, and what follows the closing
quote. Controls must be escaped. -/
def readUnits : List Char → Option (List Nat × List Char)
  | [] => none
  | char :: rest =>
    if char = '"' then some ([], rest)
    else if char = '\\' then
      match rest with
      | [] => none
      | mark :: body =>
        if mark = 'u' then
          match body with
          | first :: second :: third :: fourth :: after => do
            let unit ← unitOfHex? first second third fourth
            let (units, suffix) ← readUnits after
            some (unit :: units, suffix)
          | _ => none
        else do
          let unit ← escapeValue? mark
          let (units, suffix) ← readUnits body
          some (unit :: units, suffix)
    else if char.toNat < 0x20 then none
    else do
      let (units, suffix) ← readUnits rest
      some (char.toNat :: units, suffix)

/-- The text that a sequence of units stands for, if each half has its partner. -/
def charsOf? : List Nat → Option (List Char)
  | [] => some []
  | unit :: rest =>
    if isHighHalf unit then
      match rest with
      | [] => none
      | next :: others =>
        if isLowHalf next then
          let joined := 0x10000 + (unit - 0xD800) * 1024 + (next - 0xDC00)
          (charsOf? others).map (Char.ofNat joined :: ·)
        else none
    else if isLowHalf unit then none
    else (charsOf? rest).map (Char.ofNat unit :: ·)

def stringOf? (units : List Nat) : Option String := (charsOf? units).map String.ofList

theorem not_half_of_char (char : Char) :
    isHighHalf char.toNat = false ∧ isLowHalf char.toNat = false := by
  have valid : char.toNat < 0xD800 ∨ 0xDFFF < char.toNat ∧ char.toNat < 0x110000 := char.valid
  constructor
  · simp only [isHighHalf, Bool.and_eq_false_iff, decide_eq_false_iff_not]
    omega
  · simp only [isLowHalf, Bool.and_eq_false_iff, decide_eq_false_iff_not]
    omega

theorem chars_of_code_points (text : List Char) : charsOf? (text.map Char.toNat) = some text := by
  induction text with
  | nil => rfl
  | cons char rest induction =>
    obtain ⟨notHigh, notLow⟩ := not_half_of_char char
    rw [List.map_cons, charsOf?.eq_def]
    simp [notHigh, notLow, induction, Char.ofNat_toNat]

theorem string_of_units_of (text : String) : stringOf? (unitsOf text) = some text := by
  simp [stringOf?, unitsOf, chars_of_code_points]

theorem unit_of_hex_digits (unit : Nat) (small : unit < 0x10000) :
    unitOfHex? (hexDigit (unit / 4096 % 16)) (hexDigit (unit / 256 % 16))
      (hexDigit (unit / 16 % 16)) (hexDigit (unit % 16)) = some unit := by
  simp only [unitOfHex?, hex_value_hex_digit _ (Nat.mod_lt _ (by decide : 0 < 16)),
    Option.bind_eq_bind, Option.bind_some, Option.some.injEq]
  omega

theorem read_units_short_escape (mark : Char) (unit : Nat) (rest : List Char)
    (notHex : mark ≠ 'u') (stands : escapeValue? mark = some unit) :
    readUnits ('\\' :: mark :: rest) =
      (readUnits rest).map fun found => (unit :: found.1, found.2) := by
  rw [readUnits.eq_def]
  cases found : readUnits rest with
  | none => simp [notHex, stands, found]
  | some pair => simp [notHex, stands, found]

theorem read_units_unicode_escape (unit : Nat) (small : unit < 0x10000) (rest : List Char) :
    readUnits (unicodeEscape unit ++ rest) =
      (readUnits rest).map fun found => (unit :: found.1, found.2) := by
  rw [readUnits.eq_def]
  cases found : readUnits rest with
  | none => simp [unicodeEscape, unit_of_hex_digits unit small, found]
  | some pair => simp [unicodeEscape, unit_of_hex_digits unit small, found]

theorem read_units_plain (char : Char) (rest : List Char) (notQuote : char ≠ '"')
    (notBackslash : char ≠ '\\') (notControl : ¬ char.toNat < 0x20) :
    readUnits (char :: rest) =
      (readUnits rest).map fun found => (char.toNat :: found.1, found.2) := by
  rw [readUnits.eq_def]
  cases found : readUnits rest with
  | none => simp [notQuote, notBackslash, notControl, found]
  | some pair => simp [notQuote, notBackslash, notControl, found]

theorem read_units_unit_text (unit : Nat) (valid : unit < 0x110000) (rest : List Char) :
    readUnits (unitText unit ++ rest) =
      (readUnits rest).map fun found => (unit :: found.1, found.2) := by
  unfold unitText
  split
  · next same => exact same ▸ read_units_short_escape '"' 0x22 rest (by decide) rfl
  split
  · next same => exact same ▸ read_units_short_escape '\\' 0x5C rest (by decide) rfl
  split
  · next same => exact same ▸ read_units_short_escape 'b' 0x08 rest (by decide) rfl
  split
  · next same => exact same ▸ read_units_short_escape 't' 0x09 rest (by decide) rfl
  split
  · next same => exact same ▸ read_units_short_escape 'n' 0x0A rest (by decide) rfl
  split
  · next same => exact same ▸ read_units_short_escape 'f' 0x0C rest (by decide) rfl
  split
  · next same => exact same ▸ read_units_short_escape 'r' 0x0D rest (by decide) rfl
  split
  · next special =>
    refine read_units_unicode_escape unit ?_ rest
    simp only [isHighHalf, isLowHalf, Bool.or_eq_true, Bool.and_eq_true, decide_eq_true_eq]
      at special
    omega
  · next notQuote notBackslash _ _ _ _ _ plain =>
    simp only [isHighHalf, isLowHalf, Bool.or_eq_true, Bool.and_eq_true, decide_eq_true_eq,
      not_or, not_and] at plain
    have scalar : unit.isValidChar := by
      change unit < 0xD800 ∨ 0xDFFF < unit ∧ unit < 0x110000
      omega
    have code : (Char.ofNat unit).toNat = unit := by
      rw [Char.ofNat, dif_pos scalar]
      rfl
    have read := read_units_plain (Char.ofNat unit) rest
      (fun same => notQuote (code ▸ congrArg Char.toNat same))
      (fun same => notBackslash (code ▸ congrArg Char.toNat same)) (by omega)
    rw [code] at read
    exact read

/-- Reading a literal gives the units it was written from, and what stands behind it. -/
theorem read_units_literal (units : List Nat) (valid : ∀ unit ∈ units, unit < 0x110000)
    (suffix : List Char) :
    readUnits (units.flatMap unitText ++ '"' :: suffix) = some (units, suffix) := by
  induction units with
  | nil =>
    rw [List.flatMap_nil, List.nil_append, readUnits.eq_def]
    rfl
  | cons unit rest induction =>
    rw [List.flatMap_cons, List.append_assoc,
      read_units_unit_text unit (valid unit List.mem_cons_self),
      induction fun other member => valid other (List.mem_cons_of_mem _ member)]
    rfl

end PairLoop.Json
