import PairLoop.Context.Basic
import PairLoop.Json.Number
import PairLoop.Json.Reader

/-!
Contexts as JSON. A context is an object in its own order, and a value is an object with one
field, whose key is the kind of the value. A number that JSON cannot write comes out as nothing
and is refused when the text is read.
-/

namespace PairLoop

namespace Value

def toJson : Value → Json
  | .int number => .ofFields [("Int", .ofInt number.toInt)]
  | .real number => .ofFields [("Real", .ofFloat number)]
  | .vector components => .ofFields [("Vector", .array (components.map Json.ofFloat))]
  | .array elements => .ofFields [("Array", .array (elements.map Json.ofFloat))]

def ofTag? (tag : String) (content : Json) : Option Value :=
  if tag = "Int" then content.asInt64?.map .int
  else if tag = "Real" then content.asDouble?.map .real
  else if tag = "Vector" then content.asDoubles?.map .vector
  else if tag = "Array" then content.asDoubles?.map .array
  else none

/-- Reads a value: an object with exactly one field. -/
def ofJson? : Json → Option Value
  | .object [(key, content)] => do
    let tag ← Json.stringOf? key
    ofTag? tag content
  | _ => none

end Value

namespace Context

def toJson (context : Context) : Json :=
  .ofFields (context.pairs.map fun pair => (pair.1, pair.2.toJson))

def render (context : Context) : String := context.toJson.render

def bindingOfJson? (field : List Nat × Json) : Option (String × Value) := do
  let name ← Json.stringOf? field.1
  let value ← Value.ofJson? field.2
  some (name, value)

/-- Reads a context. A repeated name keeps its first place and takes its last value. -/
def ofJson? : Json → Option Context
  | .object fields => (fields.mapM bindingOfJson?).map Bindings.ofList
  | _ => none

def read? (text : String) : Option Context := (Json.read? text).bind ofJson?

end Context

end PairLoop
