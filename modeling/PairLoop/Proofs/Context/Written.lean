import PairLoop.Context.Json
import PairLoop.Proofs.Json.Numeral

/-!
The text of a context, told from its bindings. There are no spaces. A name stands between quotes
with its quotes, backslashes and controls escaped; a value stands behind its kind in an object of
its own; an integer is a decimal without point, and a double that is not finite is the word for
nothing. Main statement: this is the text that `Context.render` writes.
-/

namespace PairLoop

namespace Decimal

theorem to_char_of_digit (number : Nat) :
    Digit.toChar (Fin.ofNat 10 number) = Nat.digitChar (number % 10) := by
  have all : ∀ digit : Digit, digit.toChar = Nat.digitChar digit.val := by decide
  exact all (Fin.ofNat 10 number)

theorem digits_of_text (number : Nat) :
    (digitsOf number).map Digit.toChar = Nat.toDigits 10 number := by
  induction number using Nat.strongRecOn with
  | ind number induction =>
    unfold digitsOf
    rw [Nat.toDigits_eq_if (by decide)]
    split
    · next small =>
      rw [List.map_singleton, to_char_of_digit, Nat.mod_eq_of_lt small]
    · next large =>
      rw [List.map_append, induction (number / 10) (by omega), List.map_singleton,
        to_char_of_digit]

theorem int_text (number : Int) : (Numeral.ofInt number).text = (toString number).toList := by
  have parts : (Numeral.ofInt number).text =
      (if decide (number < 0) then ['-'] else []) ++
        (digitsOf number.natAbs).map Digit.toChar ++ [] ++ [] := rfl
  rw [parts, digits_of_text, List.append_nil, List.append_nil, Int.toString_eq_repr,
    Int.repr_eq_if]
  by_cases negative : number < 0
  · have magnitude : (-number).toNat = number.natAbs := by omega
    rw [decide_eq_true negative, if_pos rfl, if_neg (by omega), String.toList_append, magnitude,
      Nat.toList_repr]
    rfl
  · have magnitude : number.toNat = number.natAbs := by omega
    rw [decide_eq_false negative, if_neg Bool.false_ne_true, if_pos (by omega), magnitude,
      Nat.toList_repr]
    rfl

end Decimal

namespace Json

open Decimal

/-- A character inside of a quoted text. A control without a short form is written with the four
digits of its code. -/
def quotedChar (char : Char) : List Char :=
  if char = '"' then ['\\', '"']
  else if char = '\\' then ['\\', '\\']
  else if char = '\x08' then ['\\', 'b']
  else if char = '\t' then ['\\', 't']
  else if char = '\n' then ['\\', 'n']
  else if char = '\x0c' then ['\\', 'f']
  else if char = '\r' then ['\\', 'r']
  else if char.toNat < 0x20 then
    ['\\', 'u', '0', '0', Nat.digitChar (char.toNat / 16), Nat.digitChar (char.toNat % 16)]
  else [char]

def quotedText (text : String) : List Char := '"' :: text.toList.flatMap quotedChar ++ ['"']

theorem unicode_escape_of_control (unit : Nat) (control : unit < 0x20) :
    unicodeEscape unit =
      ['\\', 'u', '0', '0', Nat.digitChar (unit / 16), Nat.digitChar (unit % 16)] := by
  have all : ∀ unit : Fin 32, unicodeEscape unit.val =
      ['\\', 'u', '0', '0', Nat.digitChar (unit.val / 16), Nat.digitChar (unit.val % 16)] := by
    decide
  exact all ⟨unit, control⟩

theorem unit_text_of_char (char : Char) : unitText char.toNat = quotedChar char := by
  have code : ∀ other : Char, char.toNat = other.toNat ↔ char = other := fun _ => Char.toNat_inj
  obtain ⟨notHigh, notLow⟩ := not_half_of_char char
  have quote : char.toNat = 0x22 ↔ char = '"' := code '"'
  have backslash : char.toNat = 0x5C ↔ char = '\\' := code '\\'
  have backspace : char.toNat = 0x08 ↔ char = '\x08' := code '\x08'
  have tab : char.toNat = 0x09 ↔ char = '\t' := code '\t'
  have lineFeed : char.toNat = 0x0A ↔ char = '\n' := code '\n'
  have formFeed : char.toNat = 0x0C ↔ char = '\x0c' := code '\x0c'
  have carriageReturn : char.toNat = 0x0D ↔ char = '\r' := code '\r'
  simp only [unitText, quotedChar, quote, backslash, backspace, tab, lineFeed, formFeed,
    carriageReturn, notHigh, notLow, Bool.or_false, decide_eq_true_eq, Char.ofNat_toNat]
  by_cases control : char.toNat < 0x20
  · rw [unicode_escape_of_control char.toNat control]
  · rw [if_neg control, if_neg control]

theorem string_literal_of_text (text : String) : stringLiteral (unitsOf text) = quotedText text := by
  have each : (fun char => unitText (Char.toNat char)) = quotedChar := funext unit_text_of_char
  rw [stringLiteral, unitsOf, quotedText, List.flatMap_map, each]

/-- The numeral of a finite double, and the word for nothing otherwise. -/
def realText (number : Float) : List Char :=
  if number.isFinite then (reals.numeral? number).elim [] Numeral.text else ['n', 'u', 'l', 'l']

theorem text_of_float (number : Float) : (ofFloat number).text = realText number := by
  unfold ofFloat realText
  cases written : reals.numeral? number with
  | none =>
    rw [(numeral_eq_none_iff number).1 written, if_neg Bool.false_ne_true]
    rfl
  | some numeral =>
    rw [finite_of_numeral number numeral written, if_pos rfl]
    rfl

/-- Texts with a comma between two neighbours. -/
def separated (texts : List (List Char)) : List Char := [','].intercalate texts

theorem separated_cons (first : List Char) (rest : List (List Char)) :
    separated (first :: rest) = first ++ (if rest.isEmpty then [] else ',' :: separated rest) := by
  cases rest with
  | nil => rw [separated, List.intercalate_singleton, List.isEmpty_nil, if_pos rfl, List.append_nil]
  | cons next others =>
    rw [separated, List.intercalate_cons_cons, List.append_assoc, List.singleton_append,
      List.isEmpty_cons, if_neg Bool.false_ne_true]
    rfl

theorem items_text_separated (items : List Json) : itemsText items = separated (items.map text) := by
  induction items with
  | nil => rfl
  | cons item rest induction =>
    rw [itemsText, induction, List.map_cons, separated_cons, List.isEmpty_map]

def fieldText (field : List Nat × Json) : List Char :=
  stringLiteral field.1 ++ ':' :: field.2.text

theorem fields_text_separated (fields : List (List Nat × Json)) :
    fieldsText fields = separated (fields.map fieldText) := by
  induction fields with
  | nil => rfl
  | cons field rest induction =>
    rw [fieldsText, induction, List.map_cons, separated_cons, List.isEmpty_map, fieldText]

theorem text_of_floats (numbers : List Float) :
    (Json.array (numbers.map ofFloat)).text = '[' :: separated (numbers.map realText) ++ [']'] := by
  have each : text ∘ ofFloat = realText := funext text_of_float
  rw [text, items_text_separated, List.map_map, each]

end Json

namespace Value

/-- An object whose only key says what kind of value the content is. -/
def tagged (tag : String) (content : List Char) : List Char :=
  '\x7b' :: Json.quotedText tag ++ ':' :: content ++ ['\x7d']

theorem text_of_field (tag : String) (content : Json) :
    (Json.ofFields [(tag, content)]).text = tagged tag content.text := by
  rw [Json.ofFields, List.map_singleton, Json.text, Json.fields_text_separated, List.map_singleton,
    Json.separated, List.intercalate_singleton, Json.fieldText, Json.string_literal_of_text]
  rfl

def text : Value → List Char
  | .int number => tagged "Int" (toString number.toInt).toList
  | .real number => tagged "Real" (Json.realText number)
  | .vector components =>
    tagged "Vector" ('[' :: Json.separated (components.map Json.realText) ++ [']'])
  | .array elements =>
    tagged "Array" ('[' :: Json.separated (elements.map Json.realText) ++ [']'])

theorem to_json_text (value : Value) : value.toJson.text = value.text := by
  cases value with
  | int number =>
    rw [toJson, text_of_field, text, ← Decimal.int_text]
    rfl
  | real number => rw [toJson, text_of_field, text, Json.text_of_float]
  | vector components => rw [toJson, text_of_field, text, Json.text_of_floats]
  | array elements => rw [toJson, text_of_field, text, Json.text_of_floats]

end Value

namespace Context

/-- The text of a context: the bindings in order, each under its name. -/
def text (context : Context) : List Char :=
  '\x7b' :: Json.separated
    (context.pairs.map fun pair => Json.quotedText pair.1 ++ ':' :: pair.2.text) ++ ['\x7d']

theorem render_to_list (context : Context) : context.render.toList = context.text := by
  have field : ∀ pair : String × Value, Json.fieldText (Json.unitsOf pair.1, pair.2.toJson) =
      Json.quotedText pair.1 ++ ':' :: pair.2.text := by
    intro pair
    rw [Json.fieldText, Json.string_literal_of_text, Value.to_json_text]
  rw [render, Json.render, String.toList_ofList, toJson, Json.ofFields, List.map_map, Json.text,
    Json.fields_text_separated, List.map_map, text]
  congr 3
  exact List.map_congr_left fun pair _ => field pair

example : render (Bindings.ofList [("a\"\x1f", .int (-1)), ("", .array [0.5, 1.0 / 0.0])]) =
    "\x7b\"a\\\"\\u001f\":\x7b\"Int\":-1\x7d,\"\":\x7b\"Array\":[0.5,null]\x7d\x7d" := by
  decide +kernel

end Context

end PairLoop
