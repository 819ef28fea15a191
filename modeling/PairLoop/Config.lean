import PairLoop.Json.Number
import PairLoop.Json.Reader

/-!
The settings of code assembly, and their JSON form: an object in which every field may be left
out and other fields are passed over, or a list of the settings in order, which may end early.
-/

namespace PairLoop

structure Config where
  /-- The name through which generated code reaches equations; also the parameter that is dropped
  from the parameters of a behavior. -/
  receiver : String
  /-- The method of the kernel object that evaluates the kernel. -/
  kernelMethod : String
  /-- The method of the kernel object that evaluates its gradient. -/
  gradientMethod : String
  /-- Whether a parameter that nothing supplies is an error. -/
  strict : Bool
deriving DecidableEq

namespace Config

def standard : Config := ⟨"self", "kernel", "gradient", false⟩

def strictStandard : Config := { standard with strict := true }

def toJson (config : Config) : Json :=
  .ofFields
    [("receiver", .ofString config.receiver),
     ("kernel_method", .ofString config.kernelMethod),
     ("gradient_method", .ofString config.gradientMethod),
     ("strict_symbols", .bool config.strict)]

/-- The content of a field, or a fallback if there is none. A field must not come twice. -/
def field? {Content : Type} (fields : List (String × Json)) (key : String)
    (read : Json → Option Content) (fallback : Content) : Option Content :=
  match fields.filter fun field => field.1 == key with
  | [] => some fallback
  | [field] => read field.2
  | _ => none

/-- The content of an item, or a fallback if the list ends before it. -/
def item? {Content : Type} (items : List Json) (position : Nat)
    (read : Json → Option Content) (fallback : Content) : Option Content :=
  match items[position]? with
  | none => some fallback
  | some item => read item

def namedField? (field : List Nat × Json) : Option (String × Json) :=
  (Json.stringOf? field.1).map fun name => (name, field.2)

def ofJson? : Json → Option Config
  | .object written => do
    let fields ← written.mapM namedField?
    let receiver ← field? fields "receiver" Json.asString? standard.receiver
    let kernelMethod ← field? fields "kernel_method" Json.asString? standard.kernelMethod
    let gradientMethod ← field? fields "gradient_method" Json.asString? standard.gradientMethod
    let strict ← field? fields "strict_symbols" Json.asBool? standard.strict
    some ⟨receiver, kernelMethod, gradientMethod, strict⟩
  | .array items =>
    if items.length ≤ 4 then do
      let receiver ← item? items 0 Json.asString? standard.receiver
      let kernelMethod ← item? items 1 Json.asString? standard.kernelMethod
      let gradientMethod ← item? items 2 Json.asString? standard.gradientMethod
      let strict ← item? items 3 Json.asBool? standard.strict
      some ⟨receiver, kernelMethod, gradientMethod, strict⟩
    else none
  | _ => none

def read? (text : String) : Option Config := (Json.read? text).bind ofJson?

end Config

end PairLoop
