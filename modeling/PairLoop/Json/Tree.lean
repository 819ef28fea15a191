import PairLoop.Decimal.Layout
import PairLoop.Json.Text

/-!
JSON documents and their compact text. Numbers keep the numeral they are written with and fields
keep their order, also when a key comes twice: what a document means is for its reader to say.
-/

namespace PairLoop

open PairLoop.Decimal

inductive Json
  | null
  | bool (value : Bool)
  | number (numeral : Numeral)
  | string (units : List Nat)
  | array (items : List Json)
  | object (fields : List (List Nat × Json))

namespace Json

/-- How doubles are written in JSON. The exponent always has a sign. -/
def reals : Layout := ⟨-4, 16, .plus, .even⟩

def ofString (text : String) : Json := .string (unitsOf text)

def ofStrings (texts : List String) : Json := .array (texts.map ofString)

def ofFields (fields : List (String × Json)) : Json :=
  .object (fields.map fun field => (unitsOf field.1, field.2))

def ofInt (number : Int) : Json := .number (.ofInt number)

/-- The document of a double. What has no numeral is written as nothing. -/
def ofFloat (number : Float) : Json :=
  match reals.numeral? number with
  | some numeral => .number numeral
  | none => .null

mutual

def text : Json → List Char
  | .null => ['n', 'u', 'l', 'l']
  | .bool true => ['t', 'r', 'u', 'e']
  | .bool false => ['f', 'a', 'l', 's', 'e']
  | .number numeral => numeral.text
  | .string units => stringLiteral units
  | .array items => '[' :: itemsText items ++ [']']
  | .object fields => '{' :: fieldsText fields ++ ['}']

def itemsText : List Json → List Char
  | [] => []
  | item :: rest => text item ++ (if rest.isEmpty then [] else ',' :: itemsText rest)

def fieldsText : List (List Nat × Json) → List Char
  | [] => []
  | (key, value) :: rest =>
    stringLiteral key ++ ':' :: text value ++ (if rest.isEmpty then [] else ',' :: fieldsText rest)

end

def render (document : Json) : String := String.ofList document.text

end Json

end PairLoop
